import RatAfc.SendRequest

/-!
# The page over time: instances, the cache slot and the calls in flight

A run of the page is a sequence of `Event`s: a `RatAfc` instance is constructed and mounted,
the user submits requests, the gateway calls settle in any order, the map and the window send
their callbacks, and the instance unmounts, caching its state in the single slot
`"ratAfcCache"` for the next instance; a mount that throws takes the page down the same way.  A
call outlives its instance: when it settles after an unmount, `setState` on the dead instance
does nothing and the completion is dropped.

* `step`, `run`   one event, and a sequence of them from the empty page;
* `settle_cases`   what a completion can do to the state of its instance;
* `LiveStep`, `step_liveStep`   what one event can do to the instance on screen: keep it, or
  run exactly one of its handlers;
* `step_cache`   only an unmount, or a mount that throws, writes the cache slot, and it leaves
  nobody on screen;
* `step_flights_mem`   a call leaves the flights only when it settles;
* `Everywhere`, `everywhere_run`   a property of states that constructors establish and the
  steps of the instance on screen keep holds on screen and in the cache in every run.
-/

namespace RatAfc

/-- a gateway call in flight: the instance that issued it and what its handler closes over -/
structure Flight where
  owner : Nat
  request : AvailableSpectrumInquiryRequest
  rlanLoc : LatLng

/-- a `RatAfc` instance: its identity, its `afcConfig` prop, whether `componentDidMount` has
run, its state, and (for the proofs only) how many gateway calls it has issued -/
structure Instance where
  id : Nat
  afcConfig : AfcConfig
  mounted : Bool
  state : RatAfcState
  issued : Nat

/-- the page: the cache slot, the instance on screen, the calls in flight, the next identity -/
structure Page where
  cache : Option RatAfcState
  live : Option Instance
  flights : List Flight
  nextId : Nat

inductive Event where
  | construct (afcConfig : AfcConfig)
  | didMount
  | unmount
  | submit (request : AvailableSpectrumInquiryRequest)
  /-- the call at position `k` of the flights settles, the exchange having ended in `ex` -/
  | complete (k : Nat) (ex : Exchange)
  | markerUpdate (lat lon : ℚ)
  | boundsLoad (data : JVal)
  | resize (width : ℚ)
  | closeWarning

def Page.init : Page := ⟨none, none, [], 0⟩

/-- the live instance, once mounted, takes `f`; the map callbacks exist only with the map -/
def Page.onMounted (p : Page) (needsMap : Bool) (f : Instance → Instance) : Page :=
  match p.live with
  | some i =>
    if i.mounted && (!needsMap || i.state.includeMap) then { p with live := some (f i) } else p
  | none => p

section
variable (H : Host)

/-- the gateway's verdict for a call, and its completion handler on the state `s` -/
def settle (f : Flight) (ex : Exchange) (s : RatAfcState) : RatAfcState :=
  match spectrumInquiryRequest H.toCoerce (fun _ => ex) f.request with
  | .ok r => (sendRequestThen H f.request f.rlanLoc r).final s
  | .error _ => s

/-- one event.  A throw in `componentDidMount` is caught by no error boundary: React unmounts
the whole tree, and `componentWillUnmount` caches the state the instance has. -/
def step (p : Page) : Event → Page
  | .construct afcConfig =>
    match p.live with
    | none => { p with
        live := some ⟨p.nextId, afcConfig, false, constructor afcConfig, 0⟩,
        nextId := p.nextId + 1 }
    | some _ => p
  | .didMount =>
    match p.live with
    | some i =>
      if i.mounted then p
      else
        match (componentDidMount H.toCoerce i.afcConfig p.cache).run i.state with
        | .ok _ s' => { p with live := some { i with mounted := true, state := s' } }
        | .error _ s' => { p with cache := componentWillUnmount s', live := none }
    | none => p
  | .unmount =>
    match p.live with
    | some i => if i.mounted then { p with cache := componentWillUnmount i.state, live := none }
      else p
    | none => p
  | .submit request =>
    match p.live with
    | some i =>
      if i.mounted then
        match (sendRequest request).run i.state with
        | .ok rlanLoc s' => { p with
            live := some { i with state := s', issued := i.issued + 1 },
            flights := p.flights ++ [⟨i.id, request, rlanLoc⟩] }
        | .error _ s' => { p with live := some { i with state := s' } }
      else p
    | none => p
  | .complete k ex =>
    match p.flights[k]? with
    | some f =>
      let p := { p with flights := p.flights.eraseIdx k }
      match p.live with
      | some i =>
        if i.mounted && i.id == f.owner then
          { p with live := some { i with state := settle H f ex i.state } }
        else p
      | none => p
    | none => p
  | .markerUpdate lat lon =>
    p.onMounted true fun i => { i with state := onMarkerUpdate lat lon i.state }
  | .boundsLoad data => p.onMounted true fun i => { i with state := onBoundsLoad data i.state }
  | .resize width => p.onMounted false fun i => { i with state := onResize width i.state }
  | .closeWarning => p.onMounted false fun i => { i with state := onCloseWarning i.state }

def run (p : Page) (evs : List Event) : Page := evs.foldl (step H) p

@[simp] theorem run_nil (p : Page) : run H p [] = p := rfl
@[simp] theorem run_cons (p : Page) (e : Event) (evs : List Event) :
    run H p (e :: evs) = run H (step H p e) evs := rfl
theorem run_append (p : Page) (evs evs' : List Event) :
    run H p (evs ++ evs') = run H (run H p evs) evs' := List.foldl_append _ _ _ _
theorem HandlerSafe.settle {R : RatAfcState → RatAfcState → Prop} (hR : HandlerSafe R)
    (f : Flight) (ex : Exchange) (s : RatAfcState) : R s (settle H f ex s) := by
  unfold RatAfc.settle
  split
  · exact hR.sendRequestThen H _ _ _ s
  · exact hR.refl s

/-- **What a completion can do.**  It leaves the state, records an `Error` verdict, or records a
`Success` payload whose first response, read as an envelope, has a code `=== 0`, followed by the
map-info branch -/
theorem settle_cases (f : Flight) (ex : Exchange) (s : RatAfcState) :
    settle H f ex s = s ∨ (∃ d c b, settle H f ex s = recordError d c b s) ∨
      ∃ result response code,
        spectrumInquiryRequest H.toCoerce (fun _ => ex) f.request = .ok (.success result) ∧
        responseCode response = .ok code ∧ code.strictEqNum 0 = true ∧
        settle H f ex s = afterSuccess H f.request result (recordSuccess response
          (orNum f.request.minDesiredPower s.minEirp) f.rlanLoc (H.stringify result) s) := by
  unfold RatAfc.settle
  split
  next r hr =>
    cases r with
    | error d c b => exact .inr (.inl ⟨d, c, b, rfl⟩)
    | success result =>
      rw [sendRequestThen_success_final]
      split
      next response _ =>
        split
        next code hc =>
          split
          next h0 => exact .inr (.inr ⟨result, response, code, hr, hc, h0, rfl⟩)
          next => exact .inl rfl
        next => exact .inl rfl
      next => exact .inl rfl
  next => exact .inl rfl

/-! ## what a step does to the instance on screen -/

/-- what one event can do to the instance on screen -/
inductive LiveStep (H : Host) (p : Page) : Event → Instance → Instance → Prop
  | keep (e : Event) (i : Instance) : LiveStep H p e i i
  | didMount (i : Instance) (s' : RatAfcState) : i.mounted = false →
      (componentDidMount H.toCoerce i.afcConfig p.cache).run i.state = .ok () s' →
      LiveStep H p .didMount i { i with mounted := true, state := s' }
  | submitOk (request : AvailableSpectrumInquiryRequest) (i : Instance) (rlanLoc : LatLng)
      (s' : RatAfcState) : i.mounted = true → (sendRequest request).run i.state = .ok rlanLoc s' →
      LiveStep H p (.submit request) i { i with state := s', issued := i.issued + 1 }
  | submitFault (request : AvailableSpectrumInquiryRequest) (i : Instance) (e : Fault)
      (s' : RatAfcState) : i.mounted = true → (sendRequest request).run i.state = .error e s' →
      LiveStep H p (.submit request) i { i with state := s' }
  | settle (k : Nat) (ex : Exchange) (f : Flight) (i : Instance) : i.mounted = true →
      p.flights[k]? = some f → f.owner = i.id →
      LiveStep H p (.complete k ex) i { i with state := settle H f ex i.state }
  | markerUpdate (lat lon : ℚ) (i : Instance) : i.mounted = true →
      LiveStep H p (.markerUpdate lat lon) i { i with state := onMarkerUpdate lat lon i.state }
  | boundsLoad (data : JVal) (i : Instance) : i.mounted = true →
      LiveStep H p (.boundsLoad data) i { i with state := onBoundsLoad data i.state }
  | resize (width : ℚ) (i : Instance) : i.mounted = true →
      LiveStep H p (.resize width) i { i with state := onResize width i.state }
  | closeWarning (i : Instance) : i.mounted = true →
      LiveStep H p .closeWarning i { i with state := onCloseWarning i.state }

theorem onMounted_live {p : Page} {needsMap : Bool} {g : Instance → Instance} {i i' : Instance}
    (hi : p.live = some i) (hi' : (p.onMounted needsMap g).live = some i') :
    i' = i ∨ (i.mounted = true ∧ i' = g i) := by
  simp only [Page.onMounted, hi] at hi'
  split at hi'
  next h => exact .inr ⟨(Bool.and_eq_true _ _).mp h |>.1, (Option.some.inj hi').symm⟩
  next => exact .inl (Option.some.inj (hi ▸ hi')).symm

/-- **Step inversion.**  An event keeps the instance on screen, or runs exactly one of its
handlers on it -/
theorem step_liveStep {p : Page} {e : Event} {i i' : Instance} (hi : p.live = some i)
    (hi' : (step H p e).live = some i') : LiveStep H p e i i' := by
  have keep : i = i' → LiveStep H p e i i' := fun h => h ▸ .keep e i
  cases e with
  | construct cfg => simp only [step, hi] at hi'; exact keep (Option.some.inj hi')
  | didMount =>
    simp only [step, hi] at hi'
    split at hi'
    next => exact keep (Option.some.inj (hi.symm.trans hi'))
    next hm =>
      split at hi'
      next s' h =>
        cases Option.some.inj hi'
        exact .didMount i s' (by simpa using hm) h
      next => cases hi'
  | unmount =>
    simp only [step, hi] at hi'
    split at hi'
    next => exact absurd hi' (by simp)
    next => exact keep (Option.some.inj (hi.symm.trans hi'))
  | submit request =>
    simp only [step, hi] at hi'
    split at hi'
    next hm =>
      split at hi'
      next h => cases Option.some.inj hi'; exact .submitOk request i _ _ hm h
      next h => cases Option.some.inj hi'; exact .submitFault request i _ _ hm h
    next => exact keep (Option.some.inj (hi.symm.trans hi'))
  | complete k ex =>
    simp only [step] at hi'
    split at hi'
    next f hf =>
      simp only [hi] at hi'
      split at hi'
      next h =>
        cases Option.some.inj hi'
        simp only [Bool.and_eq_true, beq_iff_eq] at h
        exact .settle k ex f i h.1 hf h.2.symm
      next => exact keep (Option.some.inj hi')
    next => exact keep (Option.some.inj (hi.symm.trans hi'))
  | _ =>
    rcases onMounted_live hi hi' with rfl | ⟨hm, rfl⟩
    · exact .keep _ _
    · first
      | exact .markerUpdate _ _ i hm
      | exact .boundsLoad _ i hm
      | exact .resize _ i hm
      | exact .closeWarning i hm

theorem LiveStep.afcConfig {p : Page} {e : Event} {i i' : Instance} (h : LiveStep H p e i i') :
    i'.afcConfig = i.afcConfig := by
  cases h <;> rfl

theorem step_live_of_none {p : Page} {e : Event} {i' : Instance} (hi : p.live = none)
    (hi' : (step H p e).live = some i') :
    ∃ afcConfig, i' = ⟨p.nextId, afcConfig, false, constructor afcConfig, 0⟩ := by
  cases e with
  | construct cfg => simp only [step, hi] at hi'; exact ⟨cfg, (Option.some.inj hi').symm⟩
  | complete k ex =>
    simp only [step] at hi'
    split at hi' <;> simp_all
  | _ => simp [step, Page.onMounted, hi] at hi'

/-- only `componentWillUnmount` writes the cache slot, with the state on screen, which leaves:
at an unmount, or when `componentDidMount` throws -/
theorem step_cache (p : Page) (e : Event) :
    (step H p e).cache = p.cache ∨ ∃ i, p.live = some i ∧ (step H p e).cache = some i.state ∧
      (step H p e).live = none := by
  cases e with
  | didMount =>
    simp only [step]
    split
    next i hi =>
      split
      · exact .inl rfl
      · split
        · exact .inl rfl
        next h => exact .inr ⟨i, hi, by rw [componentDidMount_error h]; rfl, rfl⟩
    next => exact .inl rfl
  | unmount =>
    simp only [step]
    split
    next i hi => split <;> simp [hi, componentWillUnmount]
    next => exact .inl rfl
  | complete k ex =>
    left; simp only [step]
    split
    · split <;> (try split) <;> rfl
    · rfl
  | _ =>
    left; simp only [step, Page.onMounted]
    repeat' split
    all_goals rfl

theorem step_cache_of_live {p : Page} {e : Event} {i' : Instance}
    (hi' : (step H p e).live = some i') : (step H p e).cache = p.cache := by
  rcases step_cache H p e with h | ⟨_, _, _, h⟩
  · exact h
  · cases h ▸ hi'

/-! ## the calls in flight -/

theorem step_flights_mem {p : Page} {g : Flight} (hg : g ∈ p.flights) (e : Event) :
    g ∈ (step H p e).flights ∨ ∃ k ex, e = .complete k ex ∧ p.flights[k]? = some g := by
  cases e with
  | submit request =>
    left; simp only [step]
    repeat' split
    all_goals simp [hg]
  | complete k ex =>
    simp only [step]
    split
    next f hf =>
      obtain ⟨j, hj⟩ := List.mem_iff_getElem?.mp hg
      by_cases hjk : j = k
      · exact .inr ⟨k, ex, rfl, hjk ▸ hj⟩
      · have : g ∈ p.flights.eraseIdx k := List.mem_eraseIdx_iff_getElem?.mpr ⟨j, hjk, hj⟩
        left; split <;> (try split) <;> exact this
    next => exact .inl hg
  | _ =>
    left; simp only [step, Page.onMounted]
    repeat' split
    all_goals exact hg

theorem step_flights_new {p : Page} {e : Event} {g : Flight} (hg : g ∈ (step H p e).flights) :
    g ∈ p.flights ∨ ∃ s s', (sendRequest g.request).run s = .ok g.rlanLoc s' := by
  cases e with
  | submit request =>
    simp only [step] at hg
    split at hg
    next i _ =>
      split at hg
      · split at hg
        next rlanLoc s' h =>
          rcases List.mem_append.mp hg with hg | hg
          · exact .inl hg
          · exact .inr ⟨i.state, s', by rw [List.mem_singleton.mp hg]; exact h⟩
        next => exact .inl hg
      · exact .inl hg
    next => exact .inl hg
  | complete k ex =>
    left; revert hg; simp only [step]
    split
    · split <;> (try split) <;> exact List.mem_of_mem_eraseIdx
    · exact id
  | _ =>
    left; revert hg; simp only [step, Page.onMounted]
    repeat' split
    all_goals exact id

theorem step_unmount {p : Page} {i : Instance} (hi : p.live = some i) (hm : i.mounted = true) :
    step H p .unmount = { p with cache := some i.state, live := none } := by
  simp [step, hi, hm, componentWillUnmount]

theorem step_complete_flights {p : Page} {k : Nat} {ex : Exchange} {g : Flight}
    (hk : p.flights[k]? = some g) : (step H p (.complete k ex)).flights = p.flights.eraseIdx k := by
  simp only [step, hk]
  split <;> (try split) <;> rfl

theorem step_complete_own {p : Page} {k : Nat} {ex : Exchange} {g : Flight} {i : Instance}
    (hk : p.flights[k]? = some g) (hi : p.live = some i) (hm : i.mounted = true)
    (ho : g.owner = i.id) :
    (step H p (.complete k ex)).live = some { i with state := settle H g ex i.state } := by
  simp [step, hk, hi, hm, ho]

theorem step_submit_flight {p : Page} {request : AvailableSpectrumInquiryRequest} {i : Instance}
    {rlanLoc : LatLng} {s' : RatAfcState} (hi : p.live = some i) (hm : i.mounted = true)
    (h : (sendRequest request).run i.state = .ok rlanLoc s') :
    ⟨i.id, request, rlanLoc⟩ ∈ (step H p (.submit request)).flights := by
  simp [step, hi, hm, h]

/-! ## properties of every state on the page -/

/-- `P` holds of the state on screen and of the cached snapshot -/
def Everywhere (P : RatAfcState → Prop) (p : Page) : Prop :=
  (∀ i, p.live = some i → P i.state) ∧ ∀ st, p.cache = some st → P st

/-- `P` holds of every constructor's state, and every step of the instance on screen keeps it
when the cached snapshot has it -/
structure LiveStable (P : RatAfcState → Prop) : Prop where
  init : ∀ afcConfig, P (constructor afcConfig)
  step : ∀ {p : Page} {e : Event} {i i' : Instance}, LiveStep H p e i i' →
    (∀ st, p.cache = some st → P st) → P i.state → P i'.state

theorem Everywhere.step {P : RatAfcState → Prop} (hP : LiveStable H P) {p : Page}
    (hp : Everywhere P p) (e : Event) : Everywhere P (step H p e) := by
  refine ⟨fun i' hi' => ?_, fun st hst => ?_⟩
  · cases hi : p.live with
    | none =>
      obtain ⟨cfg, rfl⟩ := step_live_of_none H hi hi'
      exact hP.init cfg
    | some i => exact hP.step (step_liveStep H hi hi') hp.2 (hp.1 i hi)
  · rcases step_cache H p e with h | ⟨i, hi, h, -⟩
    · exact hp.2 st (h ▸ hst)
    · exact Option.some.inj (h.symm.trans hst) ▸ hp.1 i hi

/-- a property that constructors establish and steps keep holds everywhere in every run -/
theorem everywhere_run {P : RatAfcState → Prop} (hP : LiveStable H P) (evs : List Event) :
    Everywhere P (run H Page.init evs) := by
  suffices ∀ p, Everywhere P p → Everywhere P (run H p evs) from
    this _ ⟨fun _ h => (by cases h), fun _ h => (by cases h)⟩
  induction evs with
  | nil => exact fun _ hp => hp
  | cons e evs ih => exact fun p hp => ih _ (hp.step H hP e)

end
end RatAfc
