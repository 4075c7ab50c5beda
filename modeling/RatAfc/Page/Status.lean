import RatAfc.Page.Versions

/-!
# The "Processing" alert and the calls in flight

`sendRequest` sets the status `"Info"` (the "Processing" alert) before it calls the gateway, and
the completion handler replaces it by `"Success"` or `"Error"`.  The cached snapshot carries the
status too, so an instance unmounted while a call is in flight leaves `"Info"` in the cache,
and the next instance restores it with nothing in flight: its completion is dropped.

* `Settles`   a completion that records a status;
* `status_info_accounted`   in a run where no submission lacks a location and every completion
  of the instance's own calls records a status, `"Info"` on screen means a call of that
  instance is in flight, or that the instance has made no call yet;
* `status_info_restored`   after a remount, `"Info"` shows with no call of the instance in
  flight;
* `submit_without_location`   a request without a location leaves `"Info"` and no call;
* `sendRequest_success_not_recorded`   a `Success` answer leaves `"Info"` as well: the handler
  reads the first response once more as an envelope and throws.
-/

namespace RatAfc

section
variable (H : Host)

/-- the completion of a call records a status: an `Error` verdict, or a `Success` one whose
payload holds a first response with code `=== 0` -/
def Settles (f : Flight) (ex : Exchange) : Prop :=
  match spectrumInquiryRequest H.toCoerce (fun _ => ex) f.request with
  | .ok (.error _ _ _) => True
  | .ok (.success result) => ∃ response code, firstResponse result = .ok response ∧
      responseCode response = .ok code ∧ code.strictEqNum 0 = true
  | .error _ => False

theorem afterSuccess_status (request : AvailableSpectrumInquiryRequest) (result : JVal)
    (s : RatAfcState) : (afterSuccess H request result s).status = s.status := by
  obtain ⟨_, _, h⟩ := afterSuccess_eq H request result s
  rw [h]

theorem settle_status {f : Flight} {ex : Exchange} (h : Settles H f ex) (s : RatAfcState) :
    (settle H f ex s).status = some .success ∨ (settle H f ex s).status = some .error := by
  unfold Settles at h
  unfold settle
  split at h
  next hr => rw [hr]; exact .inr rfl
  next r hr =>
    rw [hr]
    obtain ⟨response, code, hf, hc, h0⟩ := h
    left
    simp only [sendRequestThen_success_final, hf, hc, h0, if_true, afterSuccess_status]
    rfl
  next => exact h.elim

/-- the step does not fault before the gateway call, and a completion of the live instance's
own call records a status -/
def CleanStep (p : Page) : Event → Prop
  | .submit request => ∃ loc, getLatLongFromRequest request = .ok (some loc)
  | .complete k ex => ∀ f i, p.flights[k]? = some f → p.live = some i → f.owner = i.id →
      Settles H f ex
  | _ => True

def CleanRun : Page → List Event → Prop
  | _, [] => True
  | p, e :: evs => CleanStep H p e ∧ CleanRun (step H p e) evs

/-- `"Info"` on a mounted instance is backed by a call of its own in flight, or by no call -/
def InfoAccounted (p : Page) : Prop :=
  ∀ i, p.live = some i → i.mounted = true → i.state.status = some .info →
    (∃ f ∈ p.flights, f.owner = i.id) ∨ i.issued = 0

/-- in a clean step, a call of the instance on screen stays in flight while `"Info"` shows -/
theorem own_flight_survives {p : Page} {e : Event} {i i' : Instance} {g : Flight}
    (hc : CleanStep H p e) (hi : p.live = some i) (hm : i.mounted = true) (hg : g ∈ p.flights)
    (ho : g.owner = i.id) (hi' : (step H p e).live = some i')
    (hinfo : i'.state.status = some .info) : g ∈ (step H p e).flights := by
  rcases step_flights_mem H hg e with h | ⟨k, ex, rfl, hk⟩
  · exact h
  · rw [step_complete_own H hk hi hm ho, Option.some.injEq] at hi'
    rcases settle_status H (hc g i hk hi ho) i.state with h | h <;> rw [← hi', h] at hinfo <;>
      cases hinfo

theorem infoAccounted_step {p : Page} {e : Event} (hp : PageInv p) (ha : InfoAccounted p)
    (hc : CleanStep H p e) : InfoAccounted (step H p e) := by
  intro i' hi' hm' hinfo
  cases hl : p.live with
  | none =>
    obtain ⟨cfg, rfl⟩ := step_live_of_none H hl hi'
    cases hm'
  | some i =>
    have carry : i.mounted = true → i'.issued = i.issued → i'.state.status = i.state.status →
        i'.id = i.id → (∃ f ∈ (step H p e).flights, f.owner = i'.id) ∨ i'.issued = 0 :=
      fun hm h1 h2 h3 => by
        rcases ha i hl hm (h2 ▸ hinfo) with ⟨g, hg, ho⟩ | h0
        · exact .inl ⟨g, own_flight_survives H hc hl hm hg ho hi' hinfo, ho.trans h3.symm⟩
        · exact .inr (h1.trans h0)
    cases step_liveStep H hl hi' with
    | keep => exact carry hm' rfl rfl rfl
    | didMount _ _ hm _ => exact .inr (hp.fresh i hl hm).2
    | submitOk request _ loc _ hm hr => exact .inl ⟨_, step_submit_flight H hl hm hr, rfl⟩
    | submitFault request _ _ _ _ hr =>
      obtain ⟨loc, hloc⟩ := hc
      rw [sendRequest_run, hloc] at hr
      cases hr
    | settle k ex f _ _ hk ho =>
      rcases settle_status H (hc f i hk hl ho) i.state with h | h <;> rw [h] at hinfo <;>
        cases hinfo
    | _ => exact carry (by assumption) rfl rfl rfl

theorem infoAccounted_run (evs : List Event) :
    ∀ p, PageInv p → InfoAccounted p → CleanRun H p evs → InfoAccounted (run H p evs) := by
  induction evs with
  | nil => exact fun _ _ ha _ => ha
  | cons e evs ih =>
    exact fun p hp ha hc => ih _ (hp.step H e) (infoAccounted_step H hp ha hc.1) hc.2

/-- **"Processing" is accounted for.**  In a run where no submission lacks a location and every
completion of the mounted instance's own calls records a status, the mounted instance shows
`"Info"` only while a call it issued is in flight, or before its first call. -/
theorem status_info_accounted (evs : List Event) (hc : CleanRun H Page.init evs) (i : Instance)
    (hi : (run H Page.init evs).live = some i) (hm : i.mounted = true)
    (hinfo : i.state.status = some .info) :
    (∃ f ∈ (run H Page.init evs).flights, f.owner = i.id) ∨ i.issued = 0 :=
  infoAccounted_run H evs _ PageInv.init (fun _ h => by cases h) hc i hi hm hinfo

end

def plainConfig : AfcConfig := .success ⟨10, 30, none⟩

/-- mount, then submit the sample request -/
def submitRun : List Event := [.construct plainConfig, .didMount, .submit sampleRequestObject]

theorem status_info_accounted_submit :
    CleanRun default Page.init submitRun ∧ ∃ i, (run default Page.init submitRun).live = some i ∧
      i.mounted = true ∧ i.state.status = some .info ∧
      ((∃ f ∈ (run default Page.init submitRun).flights, f.owner = i.id) ∨ i.issued = 0) :=
  ⟨⟨trivial, trivial, ⟨_, rfl⟩, trivial⟩,
    ⟨_, rfl, rfl, rfl, status_info_accounted default submitRun ⟨trivial, trivial, ⟨_, rfl⟩, trivial⟩
      _ rfl rfl rfl⟩⟩

/-- submit, unmount with the call in flight, mount a new instance -/
def remountRun : List Event := submitRun ++ [.unmount, .construct plainConfig, .didMount]

example : (run default Page.init remountRun).flights.map (·.owner) = [0] := by decide

/-- the new instance restores `"Info"` from the cache, and the only call in flight is the old
instance's, whose completion will be dropped -/
theorem status_info_restored :
    ¬ ∀ (H : Host) (evs : List Event) (i : Instance), (run H Page.init evs).live = some i →
      i.mounted = true → i.state.status = some .info →
      ∃ f ∈ (run H Page.init evs).flights, f.owner = i.id := by
  intro h
  obtain ⟨i, hi⟩ : ∃ i, (run default Page.init remountRun).live = some i := ⟨_, rfl⟩
  have hlive : (run default Page.init remountRun).live.map
      (fun i => (i.id, i.mounted, i.state.status)) = some (1, true, some .info) := by decide
  simp only [hi, Option.map_some', Option.some.injEq, Prod.mk.injEq] at hlive
  obtain ⟨f, hf, ho⟩ := h default remountRun i hi hlive.2.1 hlive.2.2
  have howners : (run default Page.init remountRun).flights.map (·.owner) = [0] := by decide
  have := howners ▸ List.mem_map_of_mem (fun g : Flight => g.owner) hf
  simp only [List.mem_singleton] at this
  omega

/-! ## a submission without a location -/

/-- **A submission without a location.**  When the request has no shape, or an empty linear
polygon, `sendRequest` throws once it has set `"Info"`: the instance keeps `"Info"` and no call is
added to the flights. -/
theorem submit_without_location (H : Host) {p : Page} {request : AvailableSpectrumInquiryRequest}
    {i : Instance} (hi : p.live = some i) (hm : i.mounted = true)
    (hl : ∀ loc, getLatLongFromRequest request ≠ .ok (some loc)) :
    (step H p (.submit request)).live =
        some { i with state := { i.state with status := some .info } } ∧
      (step H p (.submit request)).flights = p.flights := by
  simp only [step, hi, hm, if_true, sendRequest_run]
  cases h : getLatLongFromRequest request with
  | error e => exact ⟨rfl, rfl⟩
  | ok loc =>
    cases loc with
    | none => exact ⟨rfl, rfl⟩
    | some loc => exact absurd h (hl loc)

/-! ## a successful answer leaves "Processing" on screen -/

def okExchange : Exchange := answered200 okResponse

/-- a first response that also carries an envelope of its own, as the handler reads it -/
def nestedResponse : JVal :=
  .obj [("response", .obj [("responseCode", .num 0)]),
    ("availableSpectrumInquiryResponses", .arr [okResponse])]

def nestedExchange : Exchange := answered200 nestedResponse

def zeroPowerRequest : AvailableSpectrumInquiryRequest :=
  { sampleRequestObject with minDesiredPower := some 0 }

/-- The gateway resolves `Success(okResponse)`, but the handler reads
`okResponse.availableSpectrumInquiryResponses[0]`, throws, and leaves `"Info"` with nothing in
flight.  A payload that does hold such an envelope is recorded, but a requested minimum of `0`
falls back to the config's `10` through `||`. -/
theorem sendRequest_success_not_recorded (H : Host) :
    spectrumInquiryRequest H.toCoerce (fun _ => okExchange) sampleRequestObject =
        .ok (.success okResponse) ∧
      (run H Page.init (submitRun ++ [.complete 0 okExchange])).live.map (·.state.status) =
        some (some .info) ∧
      (run H Page.init (submitRun ++ [.complete 0 okExchange])).flights = [] ∧
      (run H Page.init [.construct plainConfig, .didMount, .submit zeroPowerRequest,
        .complete 0 nestedExchange]).live.map (fun i => (i.state.status, i.state.minEirp)) =
        some (some .success, 10) :=
  ⟨rfl, rfl, rfl, rfl⟩

end RatAfc
