import RatAfc.Page.Cache

/-!
# What the page shows of the last result

`render()` offers the KML of the last result for download (`DownloadContents`, with the map)
and shows the raw JSON (`JsonRawDisp`): `fullJsonResponse` when it is set, the body of the last
error otherwise.  Only the success path writes `kml` and `fullJsonResponse`; an `Error` verdict
replaces `response` and leaves both, so after an error the page still offers the earlier
result's KML and shows its JSON in place of the error's body.

* `downloadContents`, `jsonRawDisp`   the two views;
* `error_keeps_stale_artefacts`   a denial after a success with map info;
* `loadMapInfo_overlay`   the map data a success with map info leaves: the server's collection
  with the RLAN polygon of an ellipse request pushed last;
* `loadMapInfo_without_geoJson`   without a `geoJson` in the parsed file, the map data become
  `undefined`, marked valid;
* `error_alert_has_error`   in every run, the status `"Error"` comes with an error to show;
* `success_alert_code_zero`   in every run, the status `"Success"` comes with a response whose
  code is `=== 0`.
-/

namespace RatAfc

/-- `response?.response` is truthy: only a JSON body can carry a `response` field, a raw
`Response` or a caught exception has none -/
def Body.hasResponse : Body → Bool
  | .json v =>
    match v.get "response" with
    | .ok r => r.truthy
    | .error _ => false
  | _ => false

/-- the file `DownloadContents` offers as `results.kmz`: with the map, when `response?.response`
and `kml` are truthy -/
def downloadContents (s : RatAfcState) : Option String :=
  if s.includeMap then
    match s.response, s.kml with
    | some b, some k => if b.hasResponse && k != "" then some k else none
    | _, _ => none
  else none

/-- the value of `JsonRawDisp`: `fullJsonResponse` when truthy, `err?.body` otherwise -/
def jsonRawDisp (s : RatAfcState) : Option (String ⊕ Body) :=
  match s.fullJsonResponse with
  | some j => if j != "" then some (.inl j) else s.err.map fun e => .inr e.body
  | none => s.err.map fun e => .inr e.body

def deniedResponse : JVal :=
  .obj [("response", .obj [("responseCode", .num 103), ("shortDescription", .text "Invalid value")])]

/-- a success with map info, then a denial of the same request -/
def staleRun : List Event :=
  [.construct mapConfig, .didMount, .submit sampleRequestObject,
    .complete 0 (answered200 mapInfoResponse), .submit sampleRequestObject,
    .complete 0 (answered200 deniedResponse)]

def staleRunPending : RatAfcState :=
  { constructor mapConfig with
    status := some .info, mapCenter := ⟨41, -74⟩, clickedMapPoint := some ⟨41, -74⟩ }

/-- After the denial, status and response are the denial's, but the page offers the KML decoded
from the earlier success and shows that success's JSON. -/
theorem error_keeps_stale_artefacts (H : Host) (k : String) (ha : H.atob "kmz" = some k)
    (hk : k ≠ "") (hs : H.stringify mapInfoResponse ≠ "") :
    ∃ i, (run H Page.init staleRun).live = some i ∧ i.state.status = some .error ∧
      i.state.response = some (.json deniedResponse) ∧ downloadContents i.state = some k ∧
      jsonRawDisp i.state = some (.inl (H.stringify mapInfoResponse)) := by
  let s₁ := recordSuccess okResponse 15 ⟨41, -74⟩ (H.stringify mapInfoResponse) staleRunPending
  obtain ⟨kml, m, hl⟩ := loadMapInfo_final_eq H sampleRequestObject mapInfoResponse s₁
  have hkml : kml = some k := by
    have h := loadMapInfo_kml H sampleRequestObject mapInfoResponse s₁
    rw [hl] at h
    have hl : latin1 (utf16 "kmz") = some "kmz" := by decide
    have hat : atob H (.text "kmz") = .ok k := by simp [atob, JVal.text, JVal.toStr, hl, ha]
    refine h.trans ?_
    show ((atob H (.text "kmz")).toOption <|> s₁.kml) = some k
    rw [hat]
    rfl
  have hsettle : settle H ⟨0, sampleRequestObject, ⟨41, -74⟩⟩ (answered200 mapInfoResponse)
      staleRunPending = { s₁ with kml := kml, mapState := m } := by
    rw [← hl]
    show (sendRequestThen H sampleRequestObject ⟨41, -74⟩ (.success mapInfoResponse)).final
      staleRunPending = _
    rw [sendRequestThen_success_final]
    rfl
  have hrun : (run H Page.init staleRun).live = some ⟨0, mapConfig, true,
      recordError (.text "Invalid value") (.num 103) (.json deniedResponse)
        { settle H ⟨0, sampleRequestObject, ⟨41, -74⟩⟩ (answered200 mapInfoResponse)
            staleRunPending with
          status := some .info, mapCenter := ⟨41, -74⟩, clickedMapPoint := some ⟨41, -74⟩ },
      2⟩ := rfl
  refine ⟨_, hrun, rfl, rfl, ?_, ?_⟩ <;> rw [hsettle]
  · simp [downloadContents, hkml, hk, recordError, s₁, recordSuccess, staleRunPending]
    exact ⟨rfl, rfl⟩
  · simp [jsonRawDisp, recordError, s₁, recordSuccess, hs]

theorem error_keeps_stale_artefacts_decoding :
    ∃ i, (run decodingHost Page.init staleRun).live = some i ∧ i.state.status = some .error ∧
      i.state.response = some (.json deniedResponse) ∧ downloadContents i.state = some "PK" ∧
      jsonRawDisp i.state = some (.inl (decodingHost.stringify mapInfoResponse)) :=
  error_keeps_stale_artefacts decodingHost "PK" rfl (by decide) (by decide)


/-! ## the map overlay -/

section
variable (H : Host)

theorem mapInfoGeoJson_obj (request : AvailableSpectrumInquiryRequest) (mapCenter : LatLng)
    {gfs fs : List (String × JVal)} {feats : List JVal}
    (h₅ : (JVal.obj gfs).get "geoJson" = .ok (.obj fs))
    (h₆ : (JVal.obj fs).get "features" = .ok (.arr feats)) :
    mapInfoGeoJson H request mapCenter (.obj gfs) =
      .ok (match request.location.ellipse with
        | some e => (JVal.obj fs).setField "features" (.arr (feats ++ [rlanFeature H mapCenter e]))
        | none => .obj fs) := by
  unfold mapInfoGeoJson
  cases request.location.ellipse with
  | none => exact h₅
  | some e => simp [JVal.truthy, h₅, pushFeature, h₆]

/-- **The map overlay.**  When the map-info extension decodes and its `geoJsonFile` parses to an
object whose `geoJson` is an object with a feature array, the map data becomes that `geoJson`,
with the request's ellipse, if it has one, pushed last as the RLAN polygon tagged with the map's
centre, under the next version; `kml` is the decoded `kmzFile`. -/
theorem loadMapInfo_overlay (request : AvailableSpectrumInquiryRequest) (result : JVal)
    (s : RatAfcState) {v₁ v₂ : JVal} {k : String} {gfs fs : List (String × JVal)}
    {feats : List JVal} (h₁ : mapInfoParameter H result "kmzFile" = .ok v₁)
    (h₂ : mapInfoParameter H result "geoJsonFile" = .ok v₂) (h₃ : atob H v₁ = .ok k)
    (h₄ : jsonParse H v₂ = .ok (.obj gfs)) (h₅ : (JVal.obj gfs).get "geoJson" = .ok (.obj fs))
    (h₆ : (JVal.obj fs).get "features" = .ok (.arr feats)) :
    (loadMapInfo H request result).final s =
      setMapState (fun m => { m with
        val := match request.location.ellipse with
          | some e => (JVal.obj fs).setField "features"
              (.arr (feats ++ [rlanFeature H s.mapCenter e]))
          | none => .obj fs,
        valid := true, versionId := s.mapState.versionId + 1 }) { s with kml := some k } := by
  unfold loadMapInfo Js.final
  simp only [h₁, h₂, h₃, h₄, Js.run_bind, Js.run_lift_ok, Js.run_setState, Js.run_get,
    mapInfoGeoJson_obj H request _ h₅ h₆]

theorem mapInfoGeoJson_no_geoJson (request : AvailableSpectrumInquiryRequest)
    (mapCenter : LatLng) {fs : List (String × JVal)} (h : fs.lookup "geoJson" = none) :
    mapInfoGeoJson H request mapCenter (.obj fs) = .ok .undefined := by
  have hg : (JVal.obj fs).get "geoJson" = .ok .undefined := by simp [JVal.get, h]
  unfold mapInfoGeoJson
  cases request.location.ellipse with
  | none => exact hg
  | some e => simp [JVal.truthy, hg]

/-- **A `geoJsonFile` without `geoJson`.**  The comment promises to "get the GeoJson if present",
but when the parsed `geoJsonFile` has no `geoJson` the branch still replaces the map data, by
`undefined` marked valid, under the next version -/
theorem loadMapInfo_without_geoJson (request : AvailableSpectrumInquiryRequest) (result : JVal)
    (s : RatAfcState) {v₁ v₂ : JVal} {k : String} {fs : List (String × JVal)}
    (h₁ : mapInfoParameter H result "kmzFile" = .ok v₁)
    (h₂ : mapInfoParameter H result "geoJsonFile" = .ok v₂) (h₃ : atob H v₁ = .ok k)
    (h₄ : jsonParse H v₂ = .ok (.obj fs)) (h₅ : fs.lookup "geoJson" = none) :
    (loadMapInfo H request result).final s =
      setMapState (fun m => { m with
        val := .undefined, valid := true, versionId := s.mapState.versionId + 1 })
        { s with kml := some k } := by
  unfold loadMapInfo Js.final
  simp only [h₁, h₂, h₃, h₄, Js.run_bind, Js.run_lift_ok, Js.run_setState, Js.run_get,
    mapInfoGeoJson_no_geoJson H request _ h₅]

end

/-! ## the Error alert -/

/-- the Error alert has something to show: the status `"Error"` comes with an `err` -/
def ErrorShown (s : RatAfcState) : Prop := s.status = some .error → s.err.isSome

theorem errorShown_constructor (afcConfig : AfcConfig) : ErrorShown (constructor afcConfig) := by
  cases afcConfig <;> simp [ErrorShown, constructor]

theorem ErrorShown.assign {s st : RatAfcState} (hs : ErrorShown s) (hst : ErrorShown st) :
    ErrorShown (s.assign st) := by
  unfold ErrorShown at *
  simp only [RatAfcState.assign]
  cases h₁ : st.status <;> cases h₂ : st.err <;> simp_all

theorem errorShown_handlerSafe : HandlerSafe fun s s' => ErrorShown s → ErrorShown s' where
  refl _ := id
  trans h₁ h₂ := h₂ ∘ h₁
  success _ _ _ _ _ _ h := by cases h
  kml _ _ := id
  map _ _ := id
  error _ _ _ _ _ _ := rfl

theorem errorShown_componentDidMount (K : Coerce) (afcConfig : AfcConfig)
    (cached : Option RatAfcState) (hc : ∀ st, cached = some st → ErrorShown st)
    {s : RatAfcState} (hs : ErrorShown s) :
    ErrorShown ((componentDidMount K afcConfig cached).final s) := by
  rw [componentDidMount_final]
  split
  · exact hs
  · next st =>
    split
    · exact hs
    all_goals exact hs.assign (hc st rfl)

section
variable (H : Host)

theorem errorShown_liveStable : LiveStable H ErrorShown where
  init := errorShown_constructor
  step h hc hi := by
    cases h with
    | keep => exact hi
    | didMount _ _ _ hr => exact Js.final_of_ok hr ▸ errorShown_componentDidMount _ _ _ hc hi
    | submitOk _ _ _ _ _ hr => rw [(sendRequest_ok hr).2]; intro h; cases h
    | submitFault _ _ _ _ _ hr => rw [sendRequest_error hr]; intro h; cases h
    | settle => exact errorShown_handlerSafe.settle H _ _ _ hi
    | _ => exact hi

/-- **The Error alert always has an error.**  In every run, whenever the instance on screen or
the snapshot in the cache slot has the status `"Error"`, it holds an error record for the alert
to show: its `errorCode`, its `description` and its body, also after any number of remounts. -/
theorem error_alert_has_error (evs : List Event) :
    (∀ i, (run H Page.init evs).live = some i → i.state.status = some .error →
        i.state.err.isSome) ∧
      ∀ st, (run H Page.init evs).cache = some st → st.status = some .error → st.err.isSome :=
  everywhere_run H (errorShown_liveStable H) evs

end

/-! ## the Success alert -/

/-- the Success alert is backed by a response that passed the handler's check: the status
`"Success"` comes with a JSON response whose `responseCode` is `=== 0`; and a state without a
status has no response -/
def SuccessShown (s : RatAfcState) : Prop :=
  (s.status = some .success → ∃ r code, s.response = some (.json r) ∧
      responseCode r = .ok code ∧ code.strictEqNum 0 = true) ∧
    (s.status = none → s.response = none)

theorem successShown_constructor (afcConfig : AfcConfig) :
    SuccessShown (constructor afcConfig) := by
  cases afcConfig <;> simp [SuccessShown, constructor]

theorem SuccessShown.assign {s st : RatAfcState} (hs : SuccessShown s) (hst : SuccessShown st) :
    SuccessShown (s.assign st) := by
  cases h : st.status with
  | none =>
    have hr := hst.2 h
    simpa only [SuccessShown, RatAfcState.assign, h, hr, Option.none_orElse] using hs
  | some v =>
    refine ⟨fun hv => ?_, fun hv => ?_⟩
    · simp only [RatAfcState.assign, h, Option.some_orElse, Option.some.injEq] at hv
      obtain ⟨r, code, hr, hc, h0⟩ := hst.1 (hv ▸ h)
      exact ⟨r, code, by simp only [RatAfcState.assign, hr, Option.some_orElse], hc, h0⟩
    · simp only [RatAfcState.assign, h, Option.some_orElse, reduceCtorEq] at hv

theorem successShown_componentDidMount (K : Coerce) (afcConfig : AfcConfig)
    (cached : Option RatAfcState) (hc : ∀ st, cached = some st → SuccessShown st)
    {s : RatAfcState} (hs : SuccessShown s) :
    SuccessShown ((componentDidMount K afcConfig cached).final s) := by
  rw [componentDidMount_final]
  split
  · exact hs
  · next st =>
    split
    · exact hs
    all_goals exact hs.assign (hc st rfl)

section
variable (H : Host)

/-- a completion records `"Success"` only with the response it has just checked -/
theorem successShown_settle (f : Flight) (ex : Exchange) {s : RatAfcState} (hs : SuccessShown s) :
    SuccessShown (settle H f ex s) := by
  rcases settle_cases H f ex s with h | ⟨d, c, b, h⟩ | ⟨result, response, code, -, hc, h0, h⟩ <;>
    rw [h]
  · exact hs
  · exact ⟨fun h => (by cases h), fun h => (by cases h)⟩
  · obtain ⟨_, _, he⟩ := afterSuccess_eq H f.request result _
    rw [he]
    exact ⟨fun _ => ⟨response, code, rfl, hc, h0⟩, fun h => (by cases h)⟩

theorem successShown_liveStable : LiveStable H SuccessShown where
  init := successShown_constructor
  step h hc hi := by
    cases h with
    | keep => exact hi
    | didMount _ _ _ hr => exact Js.final_of_ok hr ▸ successShown_componentDidMount _ _ _ hc hi
    | submitOk _ _ _ _ _ hr =>
      rw [(sendRequest_ok hr).2]; exact ⟨fun h => (by cases h), fun h => (by cases h)⟩
    | submitFault _ _ _ _ _ hr =>
      rw [sendRequest_error hr]; exact ⟨fun h => (by cases h), fun h => (by cases h)⟩
    | settle => exact successShown_settle H _ _ hi
    | _ => exact hi

/-- **The Success alert is backed.**  In every run, whenever the instance on screen or the
snapshot in the cache slot has the status `"Success"`, its response is a JSON response whose
`responseCode` is `=== 0`: "Request completed successfully." never shows next to a denial or a
raw error body, also after remounts that merge a snapshot over a fresh state. -/
theorem success_alert_code_zero (evs : List Event) :
    (∀ i, (run H Page.init evs).live = some i → i.state.status = some .success →
        ∃ r code, i.state.response = some (.json r) ∧ responseCode r = .ok code ∧
          code.strictEqNum 0 = true) ∧
      ∀ st, (run H Page.init evs).cache = some st → st.status = some .success →
        ∃ r code, st.response = some (.json r) ∧ responseCode r = .ok code ∧
          code.strictEqNum 0 = true :=
  have h := everywhere_run H (successShown_liveStable H) evs
  ⟨fun i hi => (h.1 i hi).1, fun st hst => (h.2 st hst).1⟩

end

end RatAfc
