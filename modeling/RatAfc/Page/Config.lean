import RatAfc.Page.Status

/-!
# The config-derived fields: `includeMap` and `maxEirp`

The constructor derives `includeMap` and the EIRP thresholds from the `afcConfig` prop.
`componentDidMount` restores the cached snapshot over the state, and derives `includeMap` from
the config once more; `maxEirp` it restores as the snapshot has it, and no handler writes it.
So an instance built with one config keeps the `maxEirp` of an earlier instance built with
another.

* `ConfigKept`   the relation "neither field changes", kept by every handler but the mount;
* `ConfigAgrees`   `includeMap` as the config says, and `maxEirp` as the config says or as the
  snapshot in the cache slot has it;
* `config_state_agrees`   every instance on screen, in every run;
* `maxEirp_from_snapshot`   `maxEirp` does not follow the config across a remount.
-/

namespace RatAfc

/-- neither `includeMap` nor `maxEirp` changes from `s` to `s'` -/
def ConfigKept (s s' : RatAfcState) : Prop :=
  s'.includeMap = s.includeMap ∧ s'.maxEirp = s.maxEirp

theorem configKept_handlerSafe : HandlerSafe ConfigKept where
  refl _ := ⟨rfl, rfl⟩
  trans h₁ h₂ := ⟨h₂.1.trans h₁.1, h₂.2.trans h₁.2⟩
  success _ _ _ _ _ := ⟨rfl, rfl⟩
  kml _ _ := ⟨rfl, rfl⟩
  map _ _ := ⟨rfl, rfl⟩
  error _ _ _ _ := ⟨rfl, rfl⟩

theorem constructor_includeMap (afcConfig : AfcConfig) :
    (constructor afcConfig).includeMap = includeMapOf afcConfig := by
  cases afcConfig <;> rfl

/-- the config-derived fields of the instance `i`, under the cache slot `cache` -/
def ConfigAgrees (cache : Option RatAfcState) (i : Instance) : Prop :=
  i.state.includeMap = includeMapOf i.afcConfig ∧
    (i.state.maxEirp = (constructor i.afcConfig).maxEirp ∨
      ∃ st, cache = some st ∧ i.state.maxEirp = st.maxEirp)

theorem ConfigAgrees.of_configKept {cache : Option RatAfcState} {i : Instance}
    {s' : RatAfcState} (h : ConfigAgrees cache i) (hk : ConfigKept i.state s') :
    ConfigAgrees cache { i with state := s' } := by
  unfold ConfigAgrees
  rw [hk.1, hk.2]
  exact h

/-- mounting the constructor's state: `includeMap` from the config, `maxEirp` from the
snapshot when one is restored -/
theorem configAgrees_componentDidMount (K : Coerce) (i : Instance) (cache : Option RatAfcState)
    (hs : i.state = constructor i.afcConfig) :
    ConfigAgrees cache { i with
      mounted := true, state := (componentDidMount K i.afcConfig cache).final i.state } := by
  have fresh : ConfigAgrees cache i := ⟨hs ▸ constructor_includeMap _, .inl (by rw [hs])⟩
  unfold ConfigAgrees
  rw [componentDidMount_final]
  cases cache with
  | none => exact fresh
  | some st =>
    simp only
    split
    · exact fresh
    all_goals exact ⟨rfl, .inr ⟨st, rfl, rfl⟩⟩

section
variable (H : Host)

theorem LiveStep.configAgrees {p : Page} {e : Event} {i i' : Instance} (hf : i.Fresh)
    (h : LiveStep H p e i i') (hi : ConfigAgrees p.cache i) : ConfigAgrees p.cache i' := by
  cases h with
  | keep => exact hi
  | didMount _ _ hm hr => exact Js.final_of_ok hr ▸ configAgrees_componentDidMount _ i _ (hf hm).1
  | submitOk _ _ _ _ _ hr => rw [(sendRequest_ok hr).2]; exact hi
  | submitFault _ _ _ _ _ hr => rw [sendRequest_error hr]; exact hi
  | settle => exact hi.of_configKept (configKept_handlerSafe.settle H _ _ _)
  | _ => exact hi

/-- every instance on screen has its config-derived fields -/
def ConfigInv (p : Page) : Prop := ∀ i, p.live = some i → ConfigAgrees p.cache i

theorem ConfigInv.step {p : Page} (hp : PageInv p) (hc : ConfigInv p) (e : Event) :
    ConfigInv (step H p e) := by
  intro i' hi'
  rw [step_cache_of_live H hi']
  cases hi : p.live with
  | none =>
    obtain ⟨cfg, rfl⟩ := step_live_of_none H hi hi'
    exact ⟨constructor_includeMap cfg, .inl rfl⟩
  | some i => exact (step_liveStep H hi hi').configAgrees H (hp.fresh i hi) (hc i hi)

theorem configInv_run (evs : List Event) :
    ∀ p, PageInv p → ConfigInv p → ConfigInv (run H p evs) := by
  induction evs with
  | nil => exact fun _ _ hc => hc
  | cons e evs ih => exact fun p hp hc => ih _ (hp.step H e) (hc.step H hp e)

/-- **The config-derived fields.**  In every run, the instance on screen shows the map exactly
when its config enables it, and its `maxEirp` is the one its constructor derived from the config
(`maxEIRP` of a `Success` config, `30` otherwise) or the one of the snapshot in the cache slot. -/
theorem config_state_agrees (evs : List Event) (i : Instance)
    (hi : (run H Page.init evs).live = some i) :
    i.state.includeMap = includeMapOf i.afcConfig ∧
      (i.state.maxEirp = (constructor i.afcConfig).maxEirp ∨
        ∃ st, (run H Page.init evs).cache = some st ∧ i.state.maxEirp = st.maxEirp) :=
  configInv_run H evs _ PageInv.init (fun _ h => by cases h) i hi

end

theorem config_state_agrees_remount :
    ∃ i, (run default Page.init remountRun).live = some i ∧
      i.state.includeMap = includeMapOf i.afcConfig ∧
      (i.state.maxEirp = (constructor i.afcConfig).maxEirp ∨
        ∃ st, (run default Page.init remountRun).cache = some st ∧
          i.state.maxEirp = st.maxEirp) :=
  ⟨_, rfl, config_state_agrees default remountRun _ rfl⟩

/-- a config with a higher `maxEIRP` -/
def widerConfig : AfcConfig := .success ⟨10, 36, none⟩

/-- an instance with `maxEIRP` 30 unmounts, one with `maxEIRP` 36 mounts -/
def configChangeRun : List Event :=
  [.construct plainConfig, .didMount, .unmount, .construct widerConfig, .didMount]

/-- The second instance of `configChangeRun` shows the first one's threshold. -/
theorem maxEirp_from_snapshot :
    ¬ ∀ (H : Host) (evs : List Event) (i : Instance) (c : AFCConfigFile),
      (run H Page.init evs).live = some i → i.afcConfig = .success c →
        i.state.maxEirp = c.maxEIRP := by
  intro h
  have := h default configChangeRun _ ⟨10, 36, none⟩ rfl rfl
  revert this
  decide

end RatAfc
