import RatAfc.State

/-!
# Submitting a request (`sendRequest` of `RatAfc.tsx`)

`sendRequest(request)` sets the status to `"Info"`, recentres the map on the request's location
and calls the gateway.  Its completion handler (`sendRequestThen`) records an `Error` verdict, or
reads the `Success` payload once more as an envelope (`availableSpectrumInquiryResponses[0]`)
and, when that response's code is `=== 0`, records it; with the map enabled and a map-info
vendor extension present, it then loads the KML and the GeoJSON, adding the RLAN polygon for an
ellipse.

* `sendRequest_run`   what the synchronous part leaves, with or without a location;
* `sendRequestThen_success_final`, `loadMapInfo_final`   every state the completion handler can
  leave: the start, the success record, then `kml`, then the map data under the next version;
* `loadMapInfo_kml`   the `kml` it stores is the decoded `kmzFile` of the map-info extension;
* `sendRequestThen_success_record`   what a recorded success leaves, field by field;
* `sendRequestThen_error`   an `Error` verdict is recorded as it is;
* `HandlerSafe`   a relation that every update of the completion handler respects holds from
  its start to its end, whatever it throws.
-/

namespace RatAfc

/-- the synchronous part of `sendRequest(request)`: it returns `rlanLoc`, which the completion
handler closes over.  `rlanLoc.lat` throws when the request has no shape. -/
def sendRequest (request : AvailableSpectrumInquiryRequest) : Js LatLng := do
  setState fun s => { s with status := some .info }
  let rlanLoc ← Js.lift (getLatLongFromRequest request)
  let rlanLoc ← Js.lift (rlanLoc.elim (.error .typeError) .ok)
  setState fun s =>
    { s with mapCenter := rlanLoc, clickedMapPoint := some ⟨rlanLoc.lat, rlanLoc.lng⟩ }
  return rlanLoc

/-- `x || y` for an optional number: `undefined` and `0` fall back to `y` -/
def orNum (x : Option ℚ) (y : ℚ) : ℚ :=
  match x with
  | some v => if v ≠ 0 then v else y
  | none => y

section
variable (H : Host)

/-- `x => x.extensionID == "openAfc.mapinfo"` -/
def isMapInfo (x : JVal) : Except Fault Bool := do
  (← x.get "extensionID").looseEqStr H.toCoerce "openAfc.mapinfo"

/-- `vendorExtensions && vendorExtensions.length > 0 && vendorExtensions.findIndex(...) >= 0` -/
def hasMapInfo (result : JVal) : Except Fault Bool := do
  let exts ← result.get "vendorExtensions"
  if !exts.truthy then return false
  if !(← (← exts.get "length").gtNum H.toCoerce 0) then return false
  return (← exts.findIndex (isMapInfo H)).isSome

/-- `vendorExtensions.find(x => x.extensionID == "openAfc.mapinfo").parameters[name]` -/
def mapInfoParameter (result : JVal) (name : String) : Except Fault JVal := do
  let exts ← result.get "vendorExtensions"
  match exts, ← exts.findIndex (isMapInfo H) with
  | .arr xs, some i => (← (xs.getD i .undefined).get "parameters").get name
  | _, _ => throw .typeError

/-- the text of a string whose code units are all below 256 -/
def latin1 (t : JsString) : Option String :=
  if t.all (·.toNat < 256) then some (String.mk (t.map fun u => Char.ofNat u.toNat)) else none

/-- `atob(v)`, of `ToString(v)`: a code unit above 255 is an `InvalidCharacterError`, and so is
a text that `H.atob` cannot decode -/
def atob (v : JVal) : Except Fault String := do
  let t ← v.toStr H.toCoerce
  ((latin1 t).bind H.atob).elim (.error .invalidCharacter) .ok

def jsonParse (v : JVal) : Except Fault JVal := do
  let t ← v.toStr H.toCoerce
  (H.parse t).elim (.error .syntaxError) .ok

/-- `geoJson.features.push(feature)`, giving the updated `geoJson`; only an array has `push` -/
def pushFeature (geoJson feature : JVal) : Except Fault JVal := do
  match ← geoJson.get "features" with
  | .arr fs => return geoJson.setField "features" (.arr (fs ++ [feature]))
  | _ => throw .typeError

def rlanFeature (mapCenter : LatLng) (e : Ellipse ℚ) : JVal :=
  .obj [("type", .text "Feature"),
    ("properties", .obj [("kind", .text "RLAN"),
      ("FSLonLat", .arr [.num mapCenter.lng, .num mapCenter.lat])]),
    ("geometry", .obj [("type", .text "Polygon"),
      ("coordinates", .arr [.arr ((rasterizeEllipse H.math H.rotate H.meterOffsetToDeg e 32).map
        fun p => .arr [.num p.1, .num p.2])])])]

/-- `geojson.geoJson` after the `push` of the RLAN feature when the request has an ellipse -/
def mapInfoGeoJson (request : AvailableSpectrumInquiryRequest) (mapCenter : LatLng)
    (geojson : JVal) : Except Fault JVal := do
  let mut geojson := geojson
  if let some e := request.location.ellipse then
    if geojson.truthy then
      let gj ← geojson.get "geoJson"
      if gj.truthy then
        let gj ← pushFeature gj (rlanFeature H mapCenter e)
        geojson := geojson.setField "geoJson" gj
  geojson.get "geoJson"

/-- the map-info branch of the completion handler: `kmzFile` into `kml`, then `geoJsonFile`
into the map data under a new version -/
def loadMapInfo (request : AvailableSpectrumInquiryRequest) (result : JVal) : Js Unit := do
  let kmlFilename ← Js.lift (mapInfoParameter H result "kmzFile")
  let geoJsonFilename ← Js.lift (mapInfoParameter H result "geoJsonFile")
  let kml ← Js.lift (atob H kmlFilename)
  setState fun s => { s with kml := some kml }
  let geojson ← Js.lift (jsonParse H geoJsonFilename)
  let s ← get
  let val ← Js.lift (mapInfoGeoJson H request s.mapCenter geojson)
  setState (setMapState fun m =>
    { m with val := val, valid := true, versionId := s.mapState.versionId + 1 })

def recordSuccess (response : JVal) (minEirp : ℚ) (rlanLoc : LatLng) (json : String)
    (s : RatAfcState) : RatAfcState :=
  { s with
    status := some .success, response := some (.json response), minEirp := minEirp,
    mapCenter := rlanLoc, clickedMapPoint := some ⟨rlanLoc.lat, rlanLoc.lng⟩,
    fullJsonResponse := some json }

def recordError (description errorCode : JVal) (body : Body) (s : RatAfcState) : RatAfcState :=
  { s with status := some .error, err := some ⟨description, errorCode, body⟩,
           response := some body }

/-- the completion handler of `sendRequest`: `.then(resp => ...)` on the gateway's verdict.
`resp.result` is the first response already, and is read again as an envelope. -/
def sendRequestThen (request : AvailableSpectrumInquiryRequest) (rlanLoc : LatLng) :
    RatResponse JVal → Js Unit
  | .success result => do
    let response ← Js.lift (firstResponse result)
    if (← Js.lift (responseCode response)).strictEqNum 0 then
      let minEirp := orNum request.minDesiredPower (← get).minEirp
      setState (recordSuccess response minEirp rlanLoc (H.stringify result))
      if (← get).includeMap then
        if ← Js.lift (hasMapInfo H result) then
          loadMapInfo H request result
  | .error description errorCode body => setState (recordError description errorCode body)

/-! ## what the handlers leave -/

/-- the map-info branch throws before any update unless it can decode `kml` (both file
parameters read, `kmzFile` through `atob`); once it has set `kml`, it sets the map data under the
next version, computed from the parsed `geoJsonFile` parameter and the map's centre, or throws
before -/
theorem loadMapInfo_final (request : AvailableSpectrumInquiryRequest) (result : JVal)
    (s : RatAfcState) :
    (∃ e, (do
        let v ← mapInfoParameter H result "kmzFile"
        let _ ← mapInfoParameter H result "geoJsonFile"
        atob H v) = .error e ∧ (loadMapInfo H request result).final s = s) ∨
      ∃ k, (do
          let v ← mapInfoParameter H result "kmzFile"
          let _ ← mapInfoParameter H result "geoJsonFile"
          atob H v) = .ok k ∧
        ((loadMapInfo H request result).final s = { s with kml := some k } ∨
          ∃ file geojson val, mapInfoParameter H result "geoJsonFile" = .ok file ∧
            jsonParse H file = .ok geojson ∧
            mapInfoGeoJson H request s.mapCenter geojson = .ok val ∧
            (loadMapInfo H request result).final s =
              setMapState (fun m => { m with
                val := val, valid := true, versionId := s.mapState.versionId + 1 })
                { s with kml := some k }) := by
  unfold loadMapInfo Js.final
  cases h1 : mapInfoParameter H result "kmzFile" <;>
    simp only [h1, Js.run_bind, Js.run_lift_ok, Js.run_lift_error, except_ok_bind,
      except_error_bind]
  · simp
  cases h2 : mapInfoParameter H result "geoJsonFile" <;>
    simp only [h2, Js.run_bind, Js.run_lift_ok, Js.run_lift_error, except_ok_bind,
      except_error_bind]
  · simp
  cases h3 : atob H _ <;>
    simp only [h3, Js.run_bind, Js.run_lift_ok, Js.run_lift_error, Js.run_setState]
  · simp
  refine .inr ⟨_, rfl, ?_⟩
  cases hp : jsonParse H _ <;>
    simp only [Js.run_bind, Js.run_lift_ok, Js.run_lift_error, Js.run_get]
  · exact .inl trivial
  cases hm : mapInfoGeoJson H request _ _ <;>
    simp only [Js.run_bind, Js.run_lift_ok, Js.run_lift_error, Js.run_setState]
  · exact .inl trivial
  · exact .inr ⟨_, _, _, rfl, hp, hm, rfl⟩

theorem loadMapInfo_final_eq (request : AvailableSpectrumInquiryRequest) (result : JVal)
    (s : RatAfcState) : ∃ kml mapState,
      (loadMapInfo H request result).final s = { s with kml := kml, mapState := mapState } := by
  rcases loadMapInfo_final H request result s with ⟨-, -, h⟩ | ⟨k, -, h | ⟨-, -, val, -, -, -, h⟩⟩ <;>
    exact ⟨_, _, h⟩

/-- the `kml` the map-info branch leaves: the decoded `kmzFile` of the result's map-info
extension, once both file parameters could be read and `atob` succeeded; the old one otherwise -/
theorem loadMapInfo_kml (request : AvailableSpectrumInquiryRequest) (result : JVal)
    (s : RatAfcState) :
    ((loadMapInfo H request result).final s).kml =
      ((do
        let v ← mapInfoParameter H result "kmzFile"
        let _ ← mapInfoParameter H result "geoJsonFile"
        atob H v).toOption <|> s.kml) := by
  rcases loadMapInfo_final H request result s with ⟨e, he, h⟩ | ⟨k, hk, h | ⟨-, -, val, -, -, -, h⟩⟩
  · rw [he, h]; rfl
  all_goals rw [hk, h]; rfl

def afterSuccess (request : AvailableSpectrumInquiryRequest) (result : JVal) (s₁ : RatAfcState) :
    RatAfcState :=
  if s₁.includeMap then
    match hasMapInfo H result with
    | .ok true => (loadMapInfo H request result).final s₁
    | _ => s₁
  else s₁

theorem afterSuccess_eq (request : AvailableSpectrumInquiryRequest) (result : JVal)
    (s : RatAfcState) : ∃ kml mapState,
      afterSuccess H request result s = { s with kml := kml, mapState := mapState } := by
  unfold afterSuccess
  split
  · split
    · exact loadMapInfo_final_eq H request result s
    · exact ⟨_, _, rfl⟩
  · exact ⟨_, _, rfl⟩

/-- after a recorded success the map is unchanged, or computed from the parsed `geoJsonFile`
parameter of the payload and the map's centre -/
theorem afterSuccess_mapState (request : AvailableSpectrumInquiryRequest) (result : JVal)
    (s : RatAfcState) :
    (afterSuccess H request result s).mapState = s.mapState ∨ ∃ file geojson,
      mapInfoParameter H result "geoJsonFile" = .ok file ∧ jsonParse H file = .ok geojson ∧
      mapInfoGeoJson H request s.mapCenter geojson = .ok (afterSuccess H request result s).mapState.val := by
  unfold afterSuccess
  split
  · split
    · rcases loadMapInfo_final H request result s with
        ⟨-, -, h⟩ | ⟨k, -, h | ⟨file, geojson, _, hf, hp, hm, h⟩⟩ <;> rw [h]
      exacts [.inl rfl, .inl rfl, .inr ⟨file, geojson, hf, hp, hm⟩]
    · exact .inl rfl
  · exact .inl rfl

/-- **The success path.**  A `Success` verdict is recorded only when its payload, read as an
envelope, holds a first response whose `responseCode` is `=== 0`; otherwise the handler throws
or does nothing, and the state stays as it was. -/
theorem sendRequestThen_success_final (request : AvailableSpectrumInquiryRequest)
    (rlanLoc : LatLng) (result : JVal) (s : RatAfcState) :
    (sendRequestThen H request rlanLoc (.success result)).final s =
      match firstResponse result with
      | .ok response =>
        match responseCode response with
        | .ok code =>
          if code.strictEqNum 0 then
            afterSuccess H request result (recordSuccess response
              (orNum request.minDesiredPower s.minEirp) rlanLoc (H.stringify result) s)
          else s
        | .error _ => s
      | .error _ => s := by
  unfold sendRequestThen Js.final afterSuccess
  cases hf : firstResponse result with
  | error e => simp only [hf, Js.run_bind, Js.run_lift_error]
  | ok response =>
  simp only [hf, Js.run_bind, Js.run_lift_ok]
  cases hc : responseCode response with
  | error e => simp only [hc, Js.run_lift_error]
  | ok code =>
  simp only [hc, Js.run_lift_ok]
  cases h0 : code.strictEqNum 0
  · simp only [h0, Js.run_pure, if_false, Bool.false_eq_true]
  simp only [h0, Js.run_bind, Js.run_get, Js.run_setState, if_true]
  cases (recordSuccess response (orNum request.minDesiredPower s.minEirp) rlanLoc
    (H.stringify result) s).includeMap
  · simp only [Js.run_pure, if_false, Bool.false_eq_true]
  simp only [if_true]
  cases hasMapInfo H result with
  | error e => simp only [Js.run_bind, Js.run_lift_error]
  | ok b =>
    cases b <;>
      simp only [Js.run_bind, Js.run_lift_ok, Js.run_pure, if_false, if_true, Bool.false_eq_true]
    rfl

/-- **What a recorded success leaves.**  When the payload, read as an envelope, holds a first
response with code `=== 0`, the handler records that response, the status `"Success"`, the
threshold `minDesiredPower || minEirp`, the location and the payload's JSON text, and `kml`
becomes the decoded `kmzFile` of the payload's map-info extension when the map is shown and the
extension can be read, and stays as it was otherwise. -/
theorem sendRequestThen_success_record (request : AvailableSpectrumInquiryRequest)
    (rlanLoc : LatLng) (result : JVal) (s : RatAfcState) {response code : JVal}
    (hf : firstResponse result = .ok response) (hc : responseCode response = .ok code)
    (h0 : code.strictEqNum 0 = true) :
    let s' := (sendRequestThen H request rlanLoc (.success result)).final s
    s'.status = some .success ∧ s'.response = some (.json response) ∧
      s'.minEirp = orNum request.minDesiredPower s.minEirp ∧ s'.mapCenter = rlanLoc ∧
      s'.clickedMapPoint = some ⟨rlanLoc.lat, rlanLoc.lng⟩ ∧
      s'.fullJsonResponse = some (H.stringify result) ∧
      s'.kml = if s.includeMap ∧ (hasMapInfo H result).toOption = some true then
        ((do
          let v ← mapInfoParameter H result "kmzFile"
          let _ ← mapInfoParameter H result "geoJsonFile"
          atob H v).toOption <|> s.kml)
        else s.kml := by
  simp only [sendRequestThen_success_final, hf, hc, h0, if_true]
  obtain ⟨kml, m, h⟩ := afterSuccess_eq H request result
    (recordSuccess response (orNum request.minDesiredPower s.minEirp) rlanLoc (H.stringify result) s)
  refine ⟨?_, ?_, ?_, ?_, ?_, ?_, ?_⟩
  all_goals try (rw [h]; rfl)
  unfold afterSuccess
  by_cases hi : s.includeMap = true
  · cases hm : hasMapInfo H result with
    | ok b => cases b <;> simp [hi, hm, loadMapInfo_kml, recordSuccess, Except.toOption]
    | error e => simp [hi, hm, recordSuccess, Except.toOption]
  · simp [hi, recordSuccess]

/-- the synchronous part always sets `"Info"`; it recentres the map, or throws without a
location -/
theorem sendRequest_run (request : AvailableSpectrumInquiryRequest) (s : RatAfcState) :
    (sendRequest request).run s =
      match getLatLongFromRequest request with
      | .ok (some loc) => .ok loc { s with
          status := some .info, mapCenter := loc, clickedMapPoint := some ⟨loc.lat, loc.lng⟩ }
      | .ok none => .error .typeError { s with status := some .info }
      | .error e => .error e { s with status := some .info } := by
  unfold sendRequest
  cases h : getLatLongFromRequest request with
  | error e => simp [h]
  | ok loc => cases loc <;> simp [h]

theorem sendRequest_ok {request : AvailableSpectrumInquiryRequest} {s s' : RatAfcState}
    {loc : LatLng} (h : (sendRequest request).run s = .ok loc s') :
    getLatLongFromRequest request = .ok (some loc) ∧ s' = { s with
      status := some .info, mapCenter := loc, clickedMapPoint := some ⟨loc.lat, loc.lng⟩ } := by
  rw [sendRequest_run] at h
  split at h <;> cases h
  exact ⟨‹_›, rfl⟩

theorem sendRequest_error {request : AvailableSpectrumInquiryRequest} {s s' : RatAfcState}
    {e : Fault} (h : (sendRequest request).run s = .error e s') :
    s' = { s with status := some .info } := by
  rw [sendRequest_run] at h
  split at h <;> cases h <;> rfl

theorem sendRequestThen_error (request : AvailableSpectrumInquiryRequest) (rlanLoc : LatLng)
    (d c : JVal) (b : Body) (s : RatAfcState) :
    (sendRequestThen H request rlanLoc (.error d c b)).run s = .ok () (recordError d c b s) :=
  rfl

/-- a relation between states that every update of the completion handler respects, and that
chains -/
structure HandlerSafe (R : RatAfcState → RatAfcState → Prop) : Prop where
  refl : ∀ s, R s s
  trans : ∀ {s₁ s₂ s₃}, R s₁ s₂ → R s₂ s₃ → R s₁ s₃
  success : ∀ s response minEirp rlanLoc json, R s (recordSuccess response minEirp rlanLoc json s)
  kml : ∀ s k, R s { s with kml := some k }
  map : ∀ s val, R s (setMapState (fun m => { m with
    val := val, valid := true, versionId := s.mapState.versionId + 1 }) s)
  error : ∀ s d c b, R s (recordError d c b s)

section
variable {R : RatAfcState → RatAfcState → Prop} (hR : HandlerSafe R)
include hR

theorem HandlerSafe.loadMapInfo (request : AvailableSpectrumInquiryRequest) (result : JVal)
    (s : RatAfcState) :
    R s ((loadMapInfo H request result).final s) := by
  rcases loadMapInfo_final H request result s with
    ⟨-, -, h⟩ | ⟨k, -, h | ⟨-, -, val, -, -, -, h⟩⟩ <;> rw [h]
  · exact hR.refl s
  · exact hR.kml s k
  · exact hR.trans (hR.kml s k) (hR.map _ val)

/-- every state the completion handler leaves is related to the one it started from -/
theorem HandlerSafe.sendRequestThen (request : AvailableSpectrumInquiryRequest)
    (rlanLoc : LatLng) (r : RatResponse JVal) (s : RatAfcState) :
    R s ((sendRequestThen H request rlanLoc r).final s) := by
  cases r with
  | error d c b => exact hR.error s d c b
  | success result =>
    rw [sendRequestThen_success_final]
    split
    next response _ =>
      split
      next =>
        split
        next =>
          have h₁ := hR.success s response (orNum request.minDesiredPower s.minEirp) rlanLoc
            (H.stringify result)
          unfold afterSuccess
          split
          · split
            · exact hR.trans h₁ (hR.loadMapInfo H _ _ _)
            · exact h₁
          · exact h₁
        next => exact hR.refl s
      next => exact hR.refl s
    next => exact hR.refl s

end
end
end RatAfc
