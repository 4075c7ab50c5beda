import RatAfc.Page.Config

/-!
# The cache slot: unmount and remount

`componentWillUnmount` writes the whole state to the slot `"ratAfcCache"`, and the next
instance's `componentDidMount` merges it over its constructor's state with `setState`.  The
merge keeps a field of the fresh state wherever the snapshot's is unset, so the round trip is
exact only when the snapshot sets every optional field that the constructor sets: the clicked
point always, and the status and the error under an `Error` config.  Every reachable state does
(`Covers`), and its `includeMap` is its config's, so remounting with the same config gives the
state on screen back, with the map dropped only when it is too large.  A map whose features
cannot be counted makes the new instance's `componentDidMount` throw, and the page is gone.

* `Covers`   every optional field set in one state is set in the other;
* `assign_of_covers`   `setState` of a covering snapshot gives the snapshot;
* `covers_run`   every instance on screen covers its constructor's state;
* `remount_restores`   unmount, construct with the same config, mount: the state comes back,
  or the mount throws and nothing is left on screen.  A map-info payload whose `geoJsonFile`
  has no `geoJson` leads there.
-/

namespace RatAfc

theorem orElse_isSome_of_right {α : Type} (a : Option α) {b : Option α} (h : b.isSome) :
    (a <|> b).isSome := by
  cases a <;> simp_all

theorem orElse_eq_left {α : Type} {a b : Option α} (h : b.isSome → a.isSome) : (a <|> b) = a := by
  cases a <;> cases b <;> simp_all

/-- every optional field that `setState` merges and that is set in `s` is set in `s'` -/
structure Covers (s s' : RatAfcState) : Prop where
  response : s.response.isSome → s'.response.isSome
  status : s.status.isSome → s'.status.isSome
  err : s.err.isSome → s'.err.isSome
  kml : s.kml.isSome → s'.kml.isSome
  clickedMapPoint : s.clickedMapPoint.isSome → s'.clickedMapPoint.isSome
  fullJsonResponse : s.fullJsonResponse.isSome → s'.fullJsonResponse.isSome

theorem Covers.refl (s : RatAfcState) : Covers s s := ⟨id, id, id, id, id, id⟩

theorem Covers.trans {s₁ s₂ s₃ : RatAfcState} (h₁ : Covers s₁ s₂) (h₂ : Covers s₂ s₃) :
    Covers s₁ s₃ :=
  ⟨h₂.response ∘ h₁.response, h₂.status ∘ h₁.status, h₂.err ∘ h₁.err, h₂.kml ∘ h₁.kml,
    h₂.clickedMapPoint ∘ h₁.clickedMapPoint, h₂.fullJsonResponse ∘ h₁.fullJsonResponse⟩

/-- the map and the warnings are not among the fields `Covers` looks at -/
theorem Covers.withoutMap {s st : RatAfcState} (h : Covers s st) : Covers s (withoutMap st) :=
  ⟨h.response, h.status, h.err, h.kml, h.clickedMapPoint, h.fullJsonResponse⟩

/-- `setState` never unsets a field -/
theorem covers_assign (s st : RatAfcState) : Covers s (s.assign st) :=
  ⟨orElse_isSome_of_right _, orElse_isSome_of_right _, orElse_isSome_of_right _,
    orElse_isSome_of_right _, orElse_isSome_of_right _, orElse_isSome_of_right _⟩

/-- `setState` of a snapshot that sets every optional field the state sets gives the snapshot -/
theorem assign_of_covers {s st : RatAfcState} (h : Covers s st) : s.assign st = st := by
  simp only [RatAfcState.assign, orElse_eq_left h.response, orElse_eq_left h.status,
    orElse_eq_left h.err, orElse_eq_left h.kml, orElse_eq_left h.clickedMapPoint,
    orElse_eq_left h.fullJsonResponse]

theorem covers_handlerSafe : HandlerSafe Covers where
  refl := Covers.refl
  trans := Covers.trans
  success _ _ _ _ _ := ⟨fun _ => rfl, fun _ => rfl, id, id, fun _ => rfl, fun _ => rfl⟩
  kml _ _ := ⟨id, id, id, fun _ => rfl, id, id⟩
  map _ _ := ⟨id, id, id, id, id, id⟩
  error _ _ _ _ := ⟨fun _ => rfl, fun _ => rfl, fun _ => rfl, id, id, id⟩

theorem covers_componentDidMount (K : Coerce) (afcConfig : AfcConfig)
    (cached : Option RatAfcState) (s : RatAfcState) :
    Covers s ((componentDidMount K afcConfig cached).final s) := by
  rw [componentDidMount_final]
  split
  · exact Covers.refl s
  · split
    · exact Covers.refl s
    all_goals exact covers_assign _ _

section
variable (H : Host)

theorem LiveStep.covers {p : Page} {e : Event} {i i' : Instance} (h : LiveStep H p e i i') :
    Covers i.state i'.state := by
  cases h with
  | keep => exact Covers.refl _
  | didMount _ _ _ hr => exact Js.final_of_ok hr ▸ covers_componentDidMount _ _ _ _
  | submitOk _ _ _ _ _ hr =>
    rw [(sendRequest_ok hr).2]
    exact ⟨id, fun _ => rfl, id, id, fun _ => rfl, id⟩
  | submitFault _ _ _ _ _ hr =>
    rw [sendRequest_error hr]
    exact ⟨id, fun _ => rfl, id, id, id, id⟩
  | settle => exact covers_handlerSafe.settle H _ _ _
  | markerUpdate => exact ⟨id, id, id, id, fun _ => rfl, id⟩
  | _ => exact ⟨id, id, id, id, id, id⟩

theorem covers_run (evs : List Event) :
    ∀ p, (∀ i, p.live = some i → Covers (constructor i.afcConfig) i.state) →
      ∀ i, (run H p evs).live = some i → Covers (constructor i.afcConfig) i.state := by
  induction evs with
  | nil => exact fun _ hp => hp
  | cons e evs ih =>
    refine fun p hp => ih _ fun i' hi' => ?_
    cases hi : p.live with
    | none =>
      obtain ⟨cfg, rfl⟩ := step_live_of_none H hi hi'
      exact Covers.refl _
    | some i =>
      have hs := step_liveStep H hi hi'
      rw [hs.afcConfig H]
      exact (hp i hi).trans (hs.covers H)

/-- **Remounting restores the state.**  In every run, when the instance on screen unmounts and
an instance with the same config is constructed and mounted, the new instance shows exactly the
state of the old one; a map of more than 646 features is replaced by the empty one under the
"Google Map API Error" warning; and when the map's features cannot be counted, the mount
throws, React unmounts the page, and the slot keeps only the new instance's constructor state. -/
theorem remount_restores (evs : List Event) (i : Instance)
    (hi : (run H Page.init evs).live = some i) (hm : i.mounted = true) :
    match i.state.mapState.val.get "features" >>= (·.get "length") >>= (·.leNum H.toCoerce 646)
    with
    | .ok true =>
      (run H Page.init (evs ++ [.unmount, .construct i.afcConfig, .didMount])).live =
        some ⟨(run H Page.init evs).nextId, i.afcConfig, true, i.state, 0⟩
    | .ok false =>
      (run H Page.init (evs ++ [.unmount, .construct i.afcConfig, .didMount])).live =
        some ⟨(run H Page.init evs).nextId, i.afcConfig, true, withoutMap i.state, 0⟩
    | .error _ =>
      (run H Page.init (evs ++ [.unmount, .construct i.afcConfig, .didMount])).live = none ∧
        (run H Page.init (evs ++ [.unmount, .construct i.afcConfig, .didMount])).cache =
          some (constructor i.afcConfig) := by
  have hcov := covers_run H evs _ (fun _ h => by cases h) i hi
  have hinc : { i.state with includeMap := includeMapOf i.afcConfig } = i.state := by
    rw [← (configInv_run H evs _ PageInv.init (fun _ h => by cases h) i hi).1]
  have hrun : run H Page.init (evs ++ [.unmount, .construct i.afcConfig, .didMount]) =
      step H ⟨some i.state, some ⟨(run H Page.init evs).nextId, i.afcConfig, false,
        constructor i.afcConfig, 0⟩, (run H Page.init evs).flights,
        (run H Page.init evs).nextId + 1⟩ .didMount := by
    rw [run_append, run_cons, step_unmount H hi hm]
    rfl
  rw [hrun]
  simp only [step, Bool.false_eq_true, if_false, componentDidMount_run, hinc]
  split
  · next h => simp only [h, assign_of_covers hcov]
  · next h => simp only [h, assign_of_covers hcov.withoutMap]
  · next h => simp only [h, componentWillUnmount, and_self]

end

/-- the map-info vendor extension, with the file parameters `"kmz"` and `"gj"` -/
def mapInfoExtension : JVal :=
  .obj [("extensionID", .text "openAfc.mapinfo"),
    ("parameters", .obj [("kmzFile", .text "kmz"), ("geoJsonFile", .text "gj")])]

/-- a payload that the handler records, with the map-info extension -/
def mapInfoResponse : JVal :=
  .obj [("response", .obj [("responseCode", .num 0)]),
    ("availableSpectrumInquiryResponses", .arr [okResponse]),
    ("vendorExtensions", .arr [mapInfoExtension])]

/-- a host whose `atob` decodes every text to `"PK"`, whose `JSON.parse` gives `{}` and whose
`JSON.stringify` gives `"{}"` -/
def decodingHost : Host :=
  { (default : Host) with
    atob := fun _ => some "PK", parse := fun _ => some (.obj []),
    stringify := fun _ => "\x7b\x7d" }

/-- with the map shown, a success with map info whose `geoJsonFile` parses to `{}` -/
def geoJsonlessRun : List Event :=
  [.construct mapConfig, .didMount, .submit sampleRequestObject,
    .complete 0 (answered200 mapInfoResponse)]

theorem remount_restores_geoJsonless :
    (run decodingHost Page.init (geoJsonlessRun ++ [.unmount, .construct mapConfig, .didMount])).live =
        none ∧
      (run decodingHost Page.init (geoJsonlessRun ++ [.unmount, .construct mapConfig, .didMount])).cache =
        some (constructor mapConfig) :=
  remount_restores decodingHost geoJsonlessRun _ rfl rfl

end RatAfc
