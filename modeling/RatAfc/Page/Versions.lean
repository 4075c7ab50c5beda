import RatAfc.Page.Step

/-!
# The map version only goes up

`mapState.versionId` tells the map widget to redraw.  Every update of the map data bumps it
(`onMarkerUpdate`, the bounds loaders, the map-info branch of a completion), and
`componentDidMount` replaces the fresh state's map by the cached one, whose version is above
`0` as soon as its data is not the empty collection, since the instance that cached it bumped
it on each change.

* `VersionOk`   the relation: the version does not go down, and goes up if the data changes;
* `PageInv`     the cached and the live states are `MapVersioned`, and an instance not yet
                mounted holds its constructor's state;
* `mapState_versionId_monotone`   every step of every run, for the instance on screen.
-/

namespace RatAfc

/-- from `s` to `s'` the map version does not go down, and goes up when the map data changes -/
def VersionOk (s s' : RatAfcState) : Prop :=
  s.mapState.versionId ≤ s'.mapState.versionId ∧
    (s'.mapState.val ≠ s.mapState.val → s.mapState.versionId < s'.mapState.versionId)

theorem VersionOk.refl (s : RatAfcState) : VersionOk s s := ⟨le_refl _, fun h => absurd rfl h⟩

theorem VersionOk.trans {s₁ s₂ s₃ : RatAfcState} (h₁ : VersionOk s₁ s₂) (h₂ : VersionOk s₂ s₃) :
    VersionOk s₁ s₃ := by
  refine ⟨le_trans h₁.1 h₂.1, fun hne => ?_⟩
  by_cases h : s₂.mapState.val = s₁.mapState.val
  · exact lt_of_le_of_lt h₁.1 (h₂.2 (by rwa [h]))
  · exact lt_of_lt_of_le (h₁.2 h) h₂.1

theorem VersionOk.of_mapState {s s' : RatAfcState} (h : s'.mapState = s.mapState) :
    VersionOk s s' := by
  unfold VersionOk; rw [h]; exact VersionOk.refl s

theorem VersionOk.of_bump {s s' : RatAfcState}
    (h : s'.mapState.versionId = s.mapState.versionId + 1) : VersionOk s s' := by
  simp only [VersionOk, h]
  omega

/-- every update of the completion handler keeps `VersionOk` -/
theorem versionOk_handlerSafe : HandlerSafe VersionOk where
  refl := VersionOk.refl
  trans := VersionOk.trans
  success _ _ _ _ _ := VersionOk.of_mapState rfl
  kml _ _ := VersionOk.of_mapState rfl
  map _ _ := VersionOk.of_bump rfl
  error _ _ _ _ := VersionOk.of_mapState rfl

/-- map data other than the empty collection carries a version above `0` -/
def MapVersioned (s : RatAfcState) : Prop :=
  s.mapState.val ≠ emptyGeoJson → 0 < s.mapState.versionId

theorem MapVersioned.of_versionOk {s s' : RatAfcState} (hs : MapVersioned s)
    (h : VersionOk s s') : MapVersioned s' := by
  intro hne
  by_cases hv : s'.mapState.val = s.mapState.val
  · exact lt_of_lt_of_le (hs (hv ▸ hne)) h.1
  · exact lt_of_le_of_lt (Nat.zero_le _) (h.2 hv)

theorem constructor_mapState (afcConfig : AfcConfig) :
    (constructor afcConfig).mapState = initialMapState := by
  cases afcConfig <;> rfl

theorem constructor_mapVersioned (afcConfig : AfcConfig) : MapVersioned (constructor afcConfig) :=
  fun h => absurd (by rw [constructor_mapState]; rfl) h

/-- rehydrating a fresh state from a snapshot whose map is versioned keeps `VersionOk` -/
theorem versionOk_componentDidMount (K : Coerce) (afcConfig : AfcConfig)
    (cached : Option RatAfcState) (s : RatAfcState) (hs : s.mapState = initialMapState)
    (hc : ∀ st, cached = some st → MapVersioned st) :
    VersionOk s ((componentDidMount K afcConfig cached).final s) := by
  rw [componentDidMount_final]
  cases cached with
  | none => exact VersionOk.refl s
  | some st =>
    simp only
    split
    · exact VersionOk.refl s
    · refine ⟨by rw [hs]; exact Nat.zero_le _, fun hne => ?_⟩
      rw [hs] at hne ⊢
      exact hc st rfl hne
    · exact VersionOk.of_mapState (by rw [hs]; rfl)

/-- an instance not yet mounted holds its constructor's state and has issued no call -/
def Instance.Fresh (i : Instance) : Prop :=
  i.mounted = false → i.state = constructor i.afcConfig ∧ i.issued = 0

/-- what every reachable page satisfies -/
structure PageInv (p : Page) : Prop where
  cache : ∀ st, p.cache = some st → MapVersioned st
  live : ∀ i, p.live = some i → MapVersioned i.state
  fresh : ∀ i, p.live = some i → i.Fresh

section
variable (H : Host)

theorem LiveStep.fresh {p : Page} {e : Event} {i i' : Instance} (h : LiveStep H p e i i')
    (hi : i.Fresh) : i'.Fresh := by
  cases h with
  | keep => exact hi
  | didMount => intro h; cases h
  | _ hm => intro h; simp_all

theorem LiveStep.versionOk {p : Page} {e : Event} {i i' : Instance} (hp : PageInv p)
    (hi : p.live = some i) (h : LiveStep H p e i i') : VersionOk i.state i'.state := by
  cases h with
  | keep => exact VersionOk.refl _
  | didMount _ _ hm hr =>
    exact Js.final_of_ok hr ▸ versionOk_componentDidMount _ _ _ _
      (by rw [(hp.fresh i hi hm).1, constructor_mapState]) hp.cache
  | submitOk _ _ _ _ _ hr => exact VersionOk.of_mapState (by rw [(sendRequest_ok hr).2])
  | submitFault _ _ _ _ _ hr => exact VersionOk.of_mapState (by rw [sendRequest_error hr])
  | settle => exact versionOk_handlerSafe.settle H _ _ _
  | markerUpdate => exact VersionOk.of_bump rfl
  | boundsLoad => exact VersionOk.of_bump rfl
  | resize => exact VersionOk.of_mapState rfl
  | closeWarning => exact VersionOk.of_mapState rfl

theorem PageInv.init : PageInv Page.init :=
  ⟨fun _ h => (by cases h), fun _ h => (by cases h), fun _ h => (by cases h)⟩

theorem PageInv.step {p : Page} (hp : PageInv p) (e : Event) : PageInv (step H p e) := by
  refine ⟨fun st hst => ?_, fun i' hi' => ?_, fun i' hi' => ?_⟩
  · rcases step_cache H p e with h | ⟨i, hi, h, -⟩
    · exact hp.cache st (h ▸ hst)
    · exact Option.some.inj (h.symm.trans hst) ▸ hp.live i hi
  all_goals
    cases hi : p.live with
    | none =>
      obtain ⟨cfg, rfl⟩ := step_live_of_none H hi hi'
      first
        | exact constructor_mapVersioned cfg
        | exact fun _ => ⟨rfl, rfl⟩
    | some i =>
      have hs := step_liveStep H hi hi'
      first
        | exact (hp.live i hi).of_versionOk (hs.versionOk H hp hi)
        | exact hs.fresh H (hp.fresh i hi)

theorem pageInv_run (evs : List Event) : PageInv (run H Page.init evs) := by
  suffices ∀ p, PageInv p → PageInv (run H p evs) from this _ PageInv.init
  induction evs with
  | nil => exact fun _ hp => hp
  | cons e evs ih => exact fun p hp => ih _ (hp.step H e)

/-- **The map version only goes up.**  In every run of the page, a step that leaves the instance
on screen never lowers its map version, and raises it whenever the map data changes:
`componentDidMount` with any cached snapshot, completions, marker moves and bounds loads. -/
theorem mapState_versionId_monotone (evs : List Event) (e : Event) (i i' : Instance)
    (hi : (run H Page.init evs).live = some i) (hi' : (step H (run H Page.init evs) e).live = some i') :
    i.state.mapState.versionId ≤ i'.state.mapState.versionId ∧
      (i'.state.mapState.val ≠ i.state.mapState.val →
        i.state.mapState.versionId < i'.state.mapState.versionId) :=
  (step_liveStep H hi hi').versionOk H (pageInv_run H evs) hi

/-- **Map data carries a version.**  In every run, the map data of the instance on screen and of
the cached snapshot is the empty collection, or it carries a version above `0`, the version of
the empty map: restored data always comes with a version of its own. -/
theorem mapState_versioned (evs : List Event) :
    (∀ i, (run H Page.init evs).live = some i → i.state.mapState.val ≠ emptyGeoJson →
        0 < i.state.mapState.versionId) ∧
      ∀ st, (run H Page.init evs).cache = some st → st.mapState.val ≠ emptyGeoJson →
        0 < st.mapState.versionId :=
  ⟨(pageInv_run H evs).live, (pageInv_run H evs).cache⟩

end

def mapConfig : AfcConfig := .success ⟨10, 30, some true⟩

/-- a marker move on a freshly mounted page with the map -/
theorem mapState_versionId_monotone_marker :
    ∃ i i', (run default Page.init [.construct mapConfig, .didMount]).live = some i ∧
      (step default (run default Page.init [.construct mapConfig, .didMount])
        (.markerUpdate 41 (-74))).live = some i' ∧
      i.state.mapState.versionId ≤ i'.state.mapState.versionId ∧
      (i'.state.mapState.val ≠ i.state.mapState.val →
        i.state.mapState.versionId < i'.state.mapState.versionId) :=
  ⟨_, _, rfl, rfl, mapState_versionId_monotone default [.construct mapConfig, .didMount]
    (.markerUpdate 41 (-74)) _ _ rfl rfl⟩

end RatAfc
