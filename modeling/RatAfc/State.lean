import RatAfc.Api
import RatAfc.Geometry.Ellipse

/-!
# The state of the `RatAfc` page and its synchronous handlers

`RatAfcState` is the React state of `RatAfc.tsx`.  A handler runs in `Js`: it updates the state
step by step and may throw half way, in which case the updates made before the throw stay
(`EStateM` keeps the state of a `throw`).

* `constructor`, `componentDidMount`, `componentWillUnmount`   the life cycle: the initial
  state from the AFC config, the rehydration from the cached snapshot (dropping a map of more
  than 646 features), the snapshot written at unmount;
* `setMapState`, `onMarkerUpdate`, `onBoundsLoad`   the map updates, each bumping `versionId`;
* `getLatLongFromRequest`, `getLatLongFromRequest_eq`   the representative point of a
  request's location: a centre, or the mean of a polygon's vertices.
-/

namespace RatAfc

structure LatLng where
  lat : ℚ
  lng : ℚ

structure LinearPolygon where
  outerBoundary : List (Point ℚ)

structure RadialPolygon where
  center : Point ℚ

structure Location where
  ellipse : Option (Ellipse ℚ)
  linearPolygon : Option LinearPolygon
  radialPolygon : Option RadialPolygon

/-- `AvailableSpectrumInquiryRequest`: the fields the page reads -/
structure AvailableSpectrumInquiryRequest where
  location : Location
  minDesiredPower : Option ℚ

/-- `AFCConfigFile`: the fields the page reads -/
structure AFCConfigFile where
  minEIRP : ℚ
  maxEIRP : ℚ
  enableMapInVirtualAp : Option Bool

abbrev AfcConfig := RatResponse AFCConfigFile

inductive Status where
  | success
  | info
  | error
  deriving DecidableEq, Repr

structure ResError where
  description : JVal
  errorCode : JVal
  body : Body

structure MapState where
  val : JVal
  text : String
  valid : Bool
  dimensions : ℚ × ℚ
  isModalOpen : Bool
  versionId : Nat

/-- `RatAfcState`.  The texts the page only shows (the warnings, `kml`, the stringified JSON)
are Lean strings; what the server sends is a `JVal`. -/
structure RatAfcState where
  response : Option Body
  status : Option Status
  err : Option ResError
  extraWarning : Option String
  extraWarningTitle : Option String
  minEirp : ℚ
  maxEirp : ℚ
  width : ℚ
  mapState : MapState
  mapCenter : LatLng
  kml : Option String
  includeMap : Bool
  clickedMapPoint : Option (Point ℚ)
  fullJsonResponse : Option String

/-- `mapProps.geoJson`: the empty feature collection -/
def emptyGeoJson : JVal :=
  .obj [("type", .text "FeatureCollection"), ("features", .arr [])]

def initialMapState : MapState :=
  ⟨emptyGeoJson, "", false, (0, 0), false, 0⟩

/-- `afcConfig.kind === "Success" ? afcConfig.result.enableMapInVirtualAp ?? false : false` -/
def includeMapOf : AfcConfig → Bool
  | .success c => c.enableMapInVirtualAp.getD false
  | .error _ _ _ => false

/-- `constructor(props)`: the initial state from the AFC config -/
def constructor : AfcConfig → RatAfcState
  | .error _ _ _ =>
    { response := none, status := some .error,
      err := some ⟨.text "AFC config was not loaded properly. Try refreshing the page.",
        .undefined, .json .undefined⟩,
      extraWarning := none, extraWarningTitle := none, minEirp := 0, maxEirp := 30, width := 500,
      mapState := initialMapState, mapCenter := ⟨40, -100⟩, kml := none, includeMap := false,
      clickedMapPoint := some ⟨40, -100⟩, fullJsonResponse := none }
  | cfg@(.success c) =>
    { response := none, status := none, err := none, extraWarning := none,
      extraWarningTitle := none, minEirp := c.minEIRP, maxEirp := c.maxEIRP, width := 500,
      mapState := initialMapState, mapCenter := ⟨40, -100⟩, kml := none,
      includeMap := includeMapOf cfg, clickedMapPoint := some ⟨40, -100⟩,
      fullJsonResponse := none }

/-- `this.setState(st)`: the fields of `st` replace those of `s`.  An optional field other than
the two warnings is a key of `st` only once set, so an unset one leaves `s`'s value. -/
def RatAfcState.assign (s st : RatAfcState) : RatAfcState :=
  { st with
    response := st.response <|> s.response, status := st.status <|> s.status,
    err := st.err <|> s.err, kml := st.kml <|> s.kml,
    clickedMapPoint := st.clickedMapPoint <|> s.clickedMapPoint,
    fullJsonResponse := st.fullJsonResponse <|> s.fullJsonResponse }

/-- a handler of the page: it updates the state and may throw -/
abbrev Js := EStateM Fault RatAfcState

def Js.lift {α : Type} : Except Fault α → Js α
  | .ok a => pure a
  | .error e => throw e

def setState (f : RatAfcState → RatAfcState) : Js Unit := modify f

@[simp] theorem Js.run_pure {α : Type} (a : α) (s : RatAfcState) :
    (pure a : Js α).run s = .ok a s := rfl
@[simp] theorem Js.run_bind {α β : Type} (x : Js α) (f : α → Js β) (s : RatAfcState) :
    (x >>= f).run s = match x.run s with
      | .ok a s' => (f a).run s'
      | .error e s' => .error e s' := by
  show EStateM.bind x f s = _
  unfold EStateM.bind EStateM.run
  cases x s <;> rfl
@[simp] theorem Js.run_map {α β : Type} (f : α → β) (x : Js α) (s : RatAfcState) :
    (f <$> x).run s = match x.run s with
      | .ok a s' => .ok (f a) s'
      | .error e s' => .error e s' := by
  show EStateM.map f x s = _
  unfold EStateM.map EStateM.run
  cases x s <;> rfl
@[simp] theorem Js.run_lift_ok {α : Type} (a : α) (s : RatAfcState) :
    (Js.lift (.ok a)).run s = .ok a s := rfl
@[simp] theorem Js.run_lift_error {α : Type} (e : Fault) (s : RatAfcState) :
    (Js.lift (.error e : Except Fault α)).run s = .error e s := rfl
@[simp] theorem Js.run_setState (f : RatAfcState → RatAfcState) (s : RatAfcState) :
    (setState f).run s = .ok () (f s) := rfl
@[simp] theorem Js.run_get (s : RatAfcState) : (get : Js RatAfcState).run s = .ok s s := rfl

/-- the state a handler leaves, whether it returns or throws -/
def Js.final {α : Type} (x : Js α) (s : RatAfcState) : RatAfcState :=
  match x.run s with
  | .ok _ s' => s'
  | .error _ s' => s'

theorem Js.final_of_ok {α : Type} {x : Js α} {s s' : RatAfcState} {a : α}
    (h : x.run s = .ok a s') : x.final s = s' := by
  unfold Js.final; rw [h]

/-! ## life cycle -/

def withoutMap (st : RatAfcState) : RatAfcState :=
  { st with
    mapState := initialMapState,
    extraWarningTitle := some "Google Map API Error",
    extraWarning := some ("Due to a limitation of the Google Maps API, map data could not " ++
      "be saved. Run again to see map data.") }

/-- `componentDidMount()` with the snapshot `getCacheItem("ratAfcCache")` -/
def componentDidMount (K : Coerce) (afcConfig : AfcConfig) (cached : Option RatAfcState) :
    Js Unit :=
  match cached with
  | none => pure ()
  | some st => do
    let st := { st with includeMap := includeMapOf afcConfig }
    let n ← Js.lift ((← Js.lift (st.mapState.val.get "features")).get "length")
    if ← Js.lift (n.leNum K 646) then
      setState fun s => s.assign st
    else
      setState fun s => s.assign (withoutMap st)

/-- `componentDidMount` restores the snapshot over the state, with `includeMap` taken from the
config; a map of more than 646 features is replaced by the empty one with a warning, and a map
whose features cannot be counted makes it throw before any update -/
theorem componentDidMount_run (K : Coerce) (afcConfig : AfcConfig)
    (cached : Option RatAfcState) (s : RatAfcState) :
    (componentDidMount K afcConfig cached).run s =
      match cached with
      | none => .ok () s
      | some st =>
        match st.mapState.val.get "features" >>= (·.get "length") >>= (·.leNum K 646) with
        | .error e => .error e s
        | .ok true => .ok () (s.assign { st with includeMap := includeMapOf afcConfig })
        | .ok false => .ok () (s.assign (withoutMap { st with includeMap := includeMapOf afcConfig })) := by
  unfold componentDidMount
  cases cached with
  | none => rfl
  | some st =>
    simp only [Js.run_bind]
    cases st.mapState.val.get "features" with
    | error e => rfl
    | ok fs =>
      simp only [except_ok_bind, Js.run_lift_ok]
      cases fs.get "length" with
      | error e => rfl
      | ok n =>
        simp only [except_ok_bind, Js.run_lift_ok]
        cases n.leNum K 646 with
        | error e => rfl
        | ok b => cases b <;> rfl

theorem componentDidMount_final (K : Coerce) (afcConfig : AfcConfig)
    (cached : Option RatAfcState) (s : RatAfcState) :
    (componentDidMount K afcConfig cached).final s =
      match cached with
      | none => s
      | some st =>
        match st.mapState.val.get "features" >>= (·.get "length") >>= (·.leNum K 646) with
        | .error _ => s
        | .ok true => s.assign { st with includeMap := includeMapOf afcConfig }
        | .ok false => s.assign (withoutMap { st with includeMap := includeMapOf afcConfig }) := by
  unfold Js.final
  rw [componentDidMount_run]
  rcases cached with _ | st
  · rfl
  · dsimp only
    rcases st.mapState.val.get "features" >>= (·.get "length") >>= (·.leNum K 646) with
      _ | _ | _ <;> rfl

theorem componentDidMount_error {K : Coerce} {afcConfig : AfcConfig}
    {cached : Option RatAfcState} {s s' : RatAfcState} {e : Fault}
    (h : (componentDidMount K afcConfig cached).run s = .error e s') : s' = s := by
  rw [componentDidMount_run] at h
  rcases cached with _ | st
  · cases h
  · dsimp only at h
    split at h <;> cases h
    rfl

/-- the cache slot after `componentWillUnmount()`: `cacheItem("ratAfcCache", this.state)` -/
def componentWillUnmount (state : RatAfcState) : Option RatAfcState := some state

/-! ## map events -/

/-- `setMapState(obj)`: `Object.assign(this.state.mapState, obj)` -/
def setMapState (obj : MapState → MapState) (s : RatAfcState) : RatAfcState :=
  { s with mapState := obj s.mapState }

/-- `onMarkerUpdate(lat, lon)`: a copy of the map data under a new version -/
def onMarkerUpdate (lat lon : ℚ) (s : RatAfcState) : RatAfcState :=
  let newGeoJson := s.mapState.val.spread
  let s := { s with clickedMapPoint := some ⟨lat, lon⟩ }
  setMapState (fun m => { m with val := newGeoJson, versionId := s.mapState.versionId + 1 }) s

def onBoundsLoad (data : JVal) (s : RatAfcState) : RatAfcState :=
  setMapState (fun m => { m with val := data, versionId := s.mapState.versionId + 1 }) s

def onResize (width : ℚ) (s : RatAfcState) : RatAfcState := { s with width := width }

def onCloseWarning (s : RatAfcState) : RatAfcState :=
  { s with extraWarning := none, extraWarningTitle := none }

/-! ## the representative point of a request -/

/-- `xs.reduce((a, b) => a + b)`: a `TypeError` on an empty array -/
def reduceSum : List ℚ → Except Fault ℚ
  | [] => .error .typeError
  | x :: xs => .ok (xs.foldl (· + ·) x)

/-- `getLatLongFromRequest(request)`: the ellipse's centre, the mean of the linear polygon's
vertices or the radial polygon's centre, `undefined` without a shape -/
def getLatLongFromRequest (request : AvailableSpectrumInquiryRequest) :
    Except Fault (Option LatLng) :=
  match request.location.ellipse with
  | some e => .ok (some ⟨e.center.latitude, e.center.longitude⟩)
  | none =>
    match request.location.linearPolygon with
    | some p => do
      let lat ← reduceSum (p.outerBoundary.map (·.latitude))
      let lng ← reduceSum (p.outerBoundary.map (·.longitude))
      return some ⟨lat / p.outerBoundary.length, lng / p.outerBoundary.length⟩
    | none =>
      match request.location.radialPolygon with
      | some r => .ok (some ⟨r.center.latitude, r.center.longitude⟩)
      | none => .ok none

theorem reduceSum_eq (xs : List ℚ) :
    reduceSum xs = if xs = [] then .error .typeError else .ok xs.sum := by
  cases xs with
  | nil => rfl
  | cons x xs => simp [reduceSum, List.sum_eq_foldl, zero_add]

/-- **The representative point of a request.**  The ellipse's centre; else the mean of the
linear polygon's vertices, a `TypeError` for an empty boundary; else the radial polygon's
centre; else nothing. -/
theorem getLatLongFromRequest_eq (request : AvailableSpectrumInquiryRequest) :
    getLatLongFromRequest request =
      match request.location.ellipse, request.location.linearPolygon,
        request.location.radialPolygon with
      | some e, _, _ => .ok (some ⟨e.center.latitude, e.center.longitude⟩)
      | none, some p, _ =>
        if p.outerBoundary.isEmpty then .error .typeError
        else .ok (some ⟨(p.outerBoundary.map (·.latitude)).sum / p.outerBoundary.length,
          (p.outerBoundary.map (·.longitude)).sum / p.outerBoundary.length⟩)
      | none, none, some r => .ok (some ⟨r.center.latitude, r.center.longitude⟩)
      | none, none, none => .ok none := by
  unfold getLatLongFromRequest
  rcases request with ⟨⟨_ | e, _ | p, _ | r⟩, _⟩ <;> try rfl
  all_goals
    cases h : p.outerBoundary with
    | nil => simp [h, reduceSum]
    | cons v vs => simp [h, reduceSum_eq]

def sampleRequestObject : AvailableSpectrumInquiryRequest :=
  ⟨⟨some ⟨⟨41, -74⟩, 200, 100, 90⟩, none, none⟩, some 15⟩

/-- the rest of the engine and of `Lib/Utils` that the completion handler calls: `atob`,
`JSON.parse`, `JSON.stringify`, `Math`, `rotate` and `meterOffsetToDeg` -/
structure Host extends Coerce where
  atob : String → Option String
  parse : JsString → Option JVal
  stringify : JVal → String
  math : JsMath ℚ
  rotate : ℚ → ℚ × ℚ → ℚ × ℚ
  meterOffsetToDeg : ℚ → ℚ × ℚ → ℚ × ℚ
  deriving Inhabited

end RatAfc
