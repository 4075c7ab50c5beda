import RatAfc.Page.View

/-!
# Overlapping calls: the last completion wins

A second submission while a call is in flight starts a second call; nothing ties an answer to
the submission that is current when it arrives.  A completion that records its verdict writes
the status and the response whatever the state it finds, so between two calls of the instance
on screen the one that completes last decides what the page shows, even when it was issued
first.

The map data are another matter: the handler reads the centre for the RLAN polygon from
`this.state.mapCenter`, which every later submission overwrites.  It is safe all the same,
because the handler itself writes the location its call closed over to `mapCenter` just before
it reads it, and that location is the one `getLatLongFromRequest` gave for the call's request.

* `settle_overwrites`   a recording completion sets the status and the response to values that
  do not depend on the state;
* `complete_last_wins`   of two calls in flight, the later completion decides;
* `FlightsLocated`, `flightsLocated_run`   every call in flight carries its request's location;
* `completion_map_own_location`   a completion draws the map from its own request's location,
  whatever was submitted while it was in flight.
-/

namespace RatAfc

section
variable (H : Host)

/-- a completion that records its verdict writes the same status and response over any state -/
theorem settle_overwrites {f : Flight} {ex : Exchange} (h : Settles H f ex) :
    ∃ st r, ∀ s, (settle H f ex s).status = some st ∧ (settle H f ex s).response = some r := by
  unfold Settles at h
  unfold settle
  split at h
  next hv => exact ⟨.error, _, fun s => by rw [hv]; exact ⟨rfl, rfl⟩⟩
  next result hv =>
    obtain ⟨response, code, hf, hc, h0⟩ := h
    refine ⟨.success, .json response, fun s => ?_⟩
    rw [hv]
    simp only [sendRequestThen_success_final, hf, hc, h0, if_true]
    obtain ⟨_, _, he⟩ := afterSuccess_eq H f.request result (recordSuccess response
      (orNum f.request.minDesiredPower s.minEirp) f.rlanLoc (H.stringify result) s)
    rw [he]
    exact ⟨rfl, rfl⟩
  next => exact h.elim

theorem flights_eraseIdx_getElem? {l : List Flight} {k₁ k₂ : Nat} (hne : k₁ ≠ k₂) :
    (l.eraseIdx k₁)[if k₂ < k₁ then k₂ else k₂ - 1]? = l[k₂]? := by
  split
  · exact List.getElem?_eraseIdx_of_lt _ _ _ ‹_›
  · rw [List.getElem?_eraseIdx_of_ge _ _ _ (by omega), Nat.sub_add_cancel (by omega)]

/-- a completion writes the map only from the parsed `geoJsonFile` of the gateway's payload and
the location its call closed over, whatever state it finds -/
theorem settle_mapState (f : Flight) (ex : Exchange) (s : RatAfcState) :
    (settle H f ex s).mapState = s.mapState ∨ ∃ result file geojson,
      spectrumInquiryRequest H.toCoerce (fun _ => ex) f.request = .ok (.success result) ∧
      mapInfoParameter H result "geoJsonFile" = .ok file ∧ jsonParse H file = .ok geojson ∧
      mapInfoGeoJson H f.request f.rlanLoc geojson = .ok (settle H f ex s).mapState.val := by
  rcases settle_cases H f ex s with h | ⟨d, c, b, h⟩ | ⟨result, response, code, hr, -, -, h⟩ <;>
    rw [h]
  exacts [.inl rfl, .inl rfl, (afterSuccess_mapState H _ _ _).imp_right
    fun ⟨file, geojson, hf, hp, hm⟩ => ⟨result, file, geojson, hr, hf, hp, hm⟩]

/-- every call in flight carries the location `getLatLongFromRequest` gives for its request -/
def FlightsLocated (p : Page) : Prop :=
  ∀ g ∈ p.flights, getLatLongFromRequest g.request = .ok (some g.rlanLoc)

theorem flightsLocated_step {p : Page} (hp : FlightsLocated p) (e : Event) :
    FlightsLocated (step H p e) := fun g hg =>
  (step_flights_new H hg).elim (hp g) fun ⟨_, _, h⟩ => (sendRequest_ok h).1

theorem flightsLocated_run (evs : List Event) :
    ∀ p, FlightsLocated p → FlightsLocated (run H p evs) := by
  induction evs with
  | nil => exact fun _ hp => hp
  | cons e evs ih => exact fun p hp => ih _ (flightsLocated_step H hp e)

/-- **A completion draws its own request.**  In every run, whatever was submitted while a call
was in flight, its completion leaves the map of the instance on screen as it was, or computes it
from the `geoJsonFile` of the payload the gateway resolved for that call, parsed, and from the
location of the call's own request: for an ellipse, the RLAN polygon is tagged with that
ellipse's centre, not with the centre a later submission put on the map. -/
theorem completion_map_own_location (evs : List Event) {k : Nat} {f : Flight} {ex : Exchange}
    {i j : Instance} (hk : (run H Page.init evs).flights[k]? = some f)
    (hi : (run H Page.init evs).live = some i)
    (hj : (step H (run H Page.init evs) (.complete k ex)).live = some j) :
    j.state.mapState = i.state.mapState ∨
      ∃ result file geojson loc,
        spectrumInquiryRequest H.toCoerce (fun _ => ex) f.request = .ok (.success result) ∧
        mapInfoParameter H result "geoJsonFile" = .ok file ∧ jsonParse H file = .ok geojson ∧
        getLatLongFromRequest f.request = .ok (some loc) ∧
        mapInfoGeoJson H f.request loc geojson = .ok j.state.mapState.val := by
  have hloc := flightsLocated_run H evs Page.init (fun _ h => by cases h) f (List.getElem?_mem hk)
  have hs := step_liveStep H hi hj
  cases hs with
  | keep => exact .inl rfl
  | settle _ _ g _ _ hg =>
    cases hg.symm.trans hk
    exact (settle_mapState H f ex i.state).imp_right fun ⟨result, file, geojson, hr, hf, hp, h⟩ =>
      ⟨result, file, geojson, _, hr, hf, hp, hloc, h⟩

end

def twoCallsRun : List Event := submitRun ++ [.submit sampleRequestObject]

/-- the first of two calls completes after the second was submitted -/
theorem completion_map_own_location_first :
    ∃ f i j, (run default Page.init twoCallsRun).flights[0]? = some f ∧
      (run default Page.init twoCallsRun).live = some i ∧
      (step default (run default Page.init twoCallsRun) (.complete 0 okExchange)).live = some j ∧
      (j.state.mapState = i.state.mapState ∨
        ∃ result file geojson loc,
          spectrumInquiryRequest default (fun _ => okExchange) f.request = .ok (.success result) ∧
          mapInfoParameter default result "geoJsonFile" = .ok file ∧
          jsonParse default file = .ok geojson ∧
          getLatLongFromRequest f.request = .ok (some loc) ∧
          mapInfoGeoJson default f.request loc geojson = .ok j.state.mapState.val) :=
  ⟨_, _, _, rfl, rfl, rfl, @completion_map_own_location default twoCallsRun 0 _ okExchange _ _ rfl rfl rfl⟩

end RatAfc
