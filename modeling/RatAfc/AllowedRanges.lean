import Mathlib.Algebra.Order.Ring.Unbundled.Rat
import Mathlib.Logic.Function.Iterate

/-!
# The allowed frequency ranges (`AllowedRangesForm.tsx`)

`AllowedRangesDisplay` shows the admin-defined frequency ranges as a read-only table.  When its
`data` prop is missing or empty it falls back to `defaultRanges`, the UNII-5 and UNII-7 bands,
under a warning that the constructor decides once and the close button dismisses.

* `dataSource`, `AllowedRangesDisplay.render`   the table's rows and the warning;
* `allowedRanges_render`   after any number of clicks on the close button: the table lists the
  data's bands in order, or the two default bands, and is never empty; the warning shows
  exactly when the data is missing or empty and it has not been closed;
* `allowedRanges_props_run`   when the parent hands over new `data` as well, the table follows
  the last `data` while the warning is still decided by the first: data that arrive after
  construction are listed under the warning that the page falls back to the defaults.
-/

namespace RatAfc

/-- the fields of `FreqRange` (of `Lib/RatApiTypes`, not part of the sources) that
`freqBandToRow` reads -/
structure FreqRange where
  name : String
  startFreqMHz : ℚ
  stopFreqMHz : ℚ
  deriving DecidableEq

def defaultRanges : List FreqRange :=
  [⟨"UNII-5", 5925, 6425⟩, ⟨"UNII-7", 6525, 6875⟩]

inductive Cell where
  | text (s : String)
  | num (x : ℚ)
  deriving DecidableEq

/-- a row of the table, `{ id, cells }` -/
structure Row where
  id : Nat
  cells : List Cell
  deriving DecidableEq

/-- `freqBandToRow(f, index)` -/
def freqBandToRow (f : FreqRange) (index : Nat) : Row :=
  ⟨index, [.text f.name, .num f.startFreqMHz, .num f.stopFreqMHz]⟩

/-- `!data || data.length === 0`, a missing prop being `none` -/
def noData (data : Option (List FreqRange)) : Bool :=
  match data with
  | none => true
  | some d => d.length == 0

def dataSource (data : Option (List FreqRange)) : List FreqRange :=
  if noData data then defaultRanges else data.getD []

/-- an `AllowedRangesDisplay`: its `data` prop and its state -/
structure AllowedRangesDisplay where
  data : Option (List FreqRange)
  showWarn : Bool

/-- `constructor(props)` -/
def AllowedRangesDisplay.constructor (data : Option (List FreqRange)) : AllowedRangesDisplay :=
  ⟨data, noData data⟩

def AllowedRangesDisplay.onClose (c : AllowedRangesDisplay) : AllowedRangesDisplay :=
  { c with showWarn := false }

/-- what `render()` shows: the warning's title and text, and the rows of the table -/
structure RangesView where
  warning : Option (String × String)
  rows : List Row

/-- `render()` -/
def AllowedRangesDisplay.render (c : AllowedRangesDisplay) : RangesView :=
  ⟨if c.showWarn then
      some ("Error Fetching Allowed Frequency Ranges",
        "Falling back to default UNII-5 and UNII-7 ranges")
    else none,
    (dataSource c.data).mapIdx fun i f => freqBandToRow f i⟩

theorem onClose_iterate (data : Option (List FreqRange)) (n : Nat) :
    AllowedRangesDisplay.onClose^[n] (.constructor data) = ⟨data, noData data && n == 0⟩ := by
  induction n with
  | zero => simp [AllowedRangesDisplay.constructor]
  | succ n ih => simp [Function.iterate_succ_apply', ih, AllowedRangesDisplay.onClose]

theorem dataSource_of_data {data : Option (List FreqRange)} (h : noData data = false) :
    ∃ d, data = some d ∧ d ≠ [] ∧ dataSource data = d := by
  cases data with
  | none => cases h
  | some d => exact ⟨d, rfl, by simpa [noData] using h, by simp [dataSource, h]⟩

/-- **The allowed-ranges table.**  After any number of clicks on the close button, the table is
never empty: it lists the bands of `data` in order, the `i`-th in the row with id `i`, or, when
`data` is missing or empty, the UNII-5 and UNII-7 bands; the warning shows exactly when `data` is
missing or empty and the button has not been clicked. -/
theorem allowedRanges_render (data : Option (List FreqRange)) (n : Nat) :
    let v := (AllowedRangesDisplay.onClose^[n] (.constructor data)).render
    v.rows ≠ [] ∧
      (v.warning.isSome = (noData data && n == 0)) ∧
      (noData data = true → v.rows = [⟨0, [.text "UNII-5", .num 5925, .num 6425]⟩,
        ⟨1, [.text "UNII-7", .num 6525, .num 6875]⟩]) ∧
      (noData data = false → v.rows = (data.getD []).mapIdx fun i f => freqBandToRow f i) := by
  simp only [onClose_iterate, AllowedRangesDisplay.render]
  cases h : noData data
  · obtain ⟨d, rfl, hd, hs⟩ := dataSource_of_data h
    simp [hs, hd]
  · cases n <;> simp [dataSource, h, defaultRanges, freqBandToRow]

/-! ## prop updates -/

/-- what can happen to a mounted `AllowedRangesDisplay`: a click on the close button, or its
parent rendering it with a new `data` prop (React keeps the state) -/
inductive RangesEvent where
  | close
  | props (data : Option (List FreqRange))

def RangesEvent.isClose : RangesEvent → Bool
  | .close => true
  | .props _ => false

def RangesEvent.data? : RangesEvent → Option (Option (List FreqRange))
  | .close => none
  | .props data => some data

def AllowedRangesDisplay.step (c : AllowedRangesDisplay) : RangesEvent → AllowedRangesDisplay
  | .close => c.onClose
  | .props data => { c with data := data }

theorem foldl_step_data (evs : List RangesEvent) (c : AllowedRangesDisplay) :
    (evs.foldl AllowedRangesDisplay.step c).data = (evs.filterMap RangesEvent.data?).getLastD c.data := by
  induction evs generalizing c with
  | nil => rfl
  | cons e evs ih =>
    cases e <;> simp only [List.foldl_cons, ih, AllowedRangesDisplay.step,
      AllowedRangesDisplay.onClose, RangesEvent.data?, List.filterMap_cons, List.getLastD_cons]

theorem foldl_step_showWarn (evs : List RangesEvent) (c : AllowedRangesDisplay) :
    (evs.foldl AllowedRangesDisplay.step c).showWarn = (c.showWarn && !evs.any RangesEvent.isClose) := by
  induction evs generalizing c with
  | nil => simp
  | cons e evs ih =>
    cases e <;> simp [ih, AllowedRangesDisplay.step, AllowedRangesDisplay.onClose, RangesEvent.isClose]

/-- **The warning is decided once.**  Whatever sequence of new `data` props and clicks on the
close button follows the construction, the table lists the bands of the last `data` handed over
(or the defaults when that is missing or empty), while the warning shows exactly when the
`data` at construction was missing or empty and the button has not been clicked. -/
theorem allowedRanges_props_run (data : Option (List FreqRange)) (evs : List RangesEvent) :
    let c := evs.foldl AllowedRangesDisplay.step (.constructor data)
    c.render.rows = (dataSource ((evs.filterMap RangesEvent.data?).getLastD data)).mapIdx
        (fun i f => freqBandToRow f i) ∧
      c.render.warning.isSome = (noData data && !evs.any RangesEvent.isClose) := by
  refine ⟨?_, ?_⟩
  · simp only [AllowedRangesDisplay.render, foldl_step_data]
    rfl
  · simp only [AllowedRangesDisplay.render, foldl_step_showWarn, AllowedRangesDisplay.constructor]
    cases noData data && !evs.any RangesEvent.isClose <;> rfl

/-- data that arrive after an empty construction are listed under the fallback warning -/
example :
    let c := [RangesEvent.props (some [⟨"UNII-5", 5925, 6425⟩])].foldl AllowedRangesDisplay.step
      (.constructor none)
    c.render.warning.isSome = true ∧ c.render.rows = [⟨0, [.text "UNII-5", .num 5925, .num 6425]⟩] := by
  decide

end RatAfc
