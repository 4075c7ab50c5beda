import RatAfc.Js.Value
import Mathlib.Data.Rat.Floor

/-!
# Colouring the channels (`generateChannelData`)

`generateChannelData` of `RatAfc.tsx` copies the channel taxonomy `emptyChannels` (of
`Components/ChannelDisplay`, not part of the sources: a parameter here) and runs four nested
loops over it: every result class, every group, every channel, every index of the class's
`channelCfi`.  A channel whose name is `String(channelCfi[i])` takes `maxEirp[i]` and the colour
of that value.  Later writes overwrite earlier ones, so a channel ends with the lexicographically
last matching pair (class, index).

* `classify`     what the loops do to one channel;
* `generateChannelData_eq_map`   the loops commute: the result is `classify` on every channel of
                 the taxonomy, in place;
* `classify_eq`  `classify` writes the value of `lastMatch`, the last matching pair;
* `lastMatch_isLast`, `lastMatch_eq_none_iff`   `lastMatch` is the lexicographically
                 last pair `(k, i)` with `String(R[k].channelCfi[i]) = name`;
* `generateChannelData_classifies`   the EIRP and colour every channel ends with;
* `generateChannelDataJs`, `generateChannelDataJs_refines`   the loops as the page runs them, on
                 the response's JSON, where every read may throw; on the JSON of typed classes
                 they give the typed result.
-/

namespace RatAfc

/-- a channel EIRP as the results carry it: a number, `null` (a RAS exclusion) or absent -/
inductive Eirp where
  | undefined
  | null
  | num (x : ℚ)
  deriving DecidableEq, Repr

structure Channel where
  name : String
  maxEIRP : Eirp
  color : String
  deriving DecidableEq, Repr

structure ChannelData where
  channels : List Channel
  deriving DecidableEq, Repr

/-- `AvailableChannelInfo` of `RatAfcTypes.ts`: parallel arrays of channel numbers and EIRPs -/
structure AvailableChannelInfo where
  channelCfi : List ℚ
  maxEirp : List Eirp
  deriving DecidableEq, Repr

/-- the colour of an EIRP against the thresholds; `null` and absent values are black -/
def eirpColor (v : Eirp) (minEirp maxEirp : ℚ) : String :=
  match v with
  | .undefined => "black"
  | .null => "black"
  | .num x => if maxEirp ≤ x then "green" else if minEirp ≤ x then "yellow" else "red"

/-- `channel.maxEIRP = v` followed by the colouring of the loop body -/
def Channel.write (c : Channel) (v : Eirp) (minEirp maxEirp : ℚ) : Channel :=
  { c with maxEIRP := v, color := eirpColor v minEirp maxEirp }

@[simp] theorem Channel.write_name (c : Channel) (v : Eirp) (mn mx : ℚ) :
    (c.write v mn mx).name = c.name := rfl

@[simp] theorem Channel.write_write (c : Channel) (v w : Eirp) (mn mx : ℚ) :
    (c.write v mn mx).write w mn mx = c.write w mn mx := rfl

section
variable (K : Coerce)

/-- the body of the innermost loop: index `i` of `channelClass` against `channel` -/
def visit (channelClass : AvailableChannelInfo) (minEirp maxEirp : ℚ) (channel : Channel)
    (i : Nat) : Channel :=
  match channelClass.channelCfi[i]? with
  | some cfi =>
    if channel.name = K.numberToString cfi then
      channel.write (channelClass.maxEirp.getD i .undefined) minEirp maxEirp
    else channel
  | none => channel

/-- `generateChannelData(channelClasses, minEirp, maxEirp)` over the taxonomy `emptyChannels`
(`clone` copies it: the values here are never shared) -/
def generateChannelData (emptyChannels : List ChannelData)
    (channelClasses : List AvailableChannelInfo) (minEirp maxEirp : ℚ) : List ChannelData :=
  channelClasses.foldl (fun channelData channelClass =>
      channelData.map fun channelGroup =>
        { channelGroup with
          channels := channelGroup.channels.map (fun channel =>
            (List.range channelClass.channelCfi.length).foldl
              (visit K channelClass minEirp maxEirp) channel) })
    emptyChannels

def visitClass (channelClass : AvailableChannelInfo) (minEirp maxEirp : ℚ) (channel : Channel) :
    Channel :=
  (List.range channelClass.channelCfi.length).foldl (visit K channelClass minEirp maxEirp) channel

/-- the loops seen from one channel: every class in order, every index in order -/
def classify (channelClasses : List AvailableChannelInfo) (minEirp maxEirp : ℚ)
    (channel : Channel) : Channel :=
  channelClasses.foldl (fun c channelClass => visitClass K channelClass minEirp maxEirp c) channel

@[simp] theorem classify_nil (mn mx : ℚ) (c : Channel) : classify K [] mn mx c = c := rfl

theorem classify_cons (r : AvailableChannelInfo) (R : List AvailableChannelInfo) (mn mx : ℚ)
    (c : Channel) : classify K (r :: R) mn mx c = classify K R mn mx (visitClass K r mn mx c) :=
  rfl

theorem generateChannelData_eq_map (T : List ChannelData) (R : List AvailableChannelInfo)
    (mn mx : ℚ) :
    generateChannelData K T R mn mx =
      T.map fun g => { g with channels := g.channels.map (classify K R mn mx) } := by
  induction R generalizing T with
  | nil => simp [generateChannelData, show classify K [] mn mx = id from rfl]
  | cons r R ih =>
    simp only [generateChannelData, List.foldl_cons] at ih ⊢
    rw [ih]
    simp [Function.comp_def, classify_cons, visitClass]

/-! ## one class: the last matching index -/

/-- entry `i` of `channelClass.channelCfi` is written `name` -/
def matchesAt (channelClass : AvailableChannelInfo) (name : String) (i : Nat) : Bool :=
  match channelClass.channelCfi[i]? with
  | some cfi => name = K.numberToString cfi
  | none => false

theorem matchesAt_iff (r : AvailableChannelInfo) (name : String) (i : Nat) :
    matchesAt K r name i = true ↔
      ∃ cfi, r.channelCfi[i]? = some cfi ∧ K.numberToString cfi = name := by
  unfold matchesAt
  cases r.channelCfi[i]? <;> simp [eq_comm]

theorem visit_eq (r : AvailableChannelInfo) (mn mx : ℚ) (c : Channel) (i : Nat) :
    visit K r mn mx c i =
      if matchesAt K r c.name i then c.write (r.maxEirp.getD i .undefined) mn mx else c := by
  unfold visit matchesAt
  split <;> simp

/-- the last index below `n` whose entry is written `name` -/
def lastIdx (r : AvailableChannelInfo) (name : String) : Nat → Option Nat
  | 0 => none
  | n + 1 => if matchesAt K r name n then some n else lastIdx r name n

theorem lastIdx_eq_none_iff (r : AvailableChannelInfo) (name : String) (n : Nat) :
    lastIdx K r name n = none ↔ ∀ j < n, matchesAt K r name j = false := by
  induction n with
  | zero => simp [lastIdx]
  | succ n ih =>
    simp only [lastIdx]
    split
    next hm =>
      simp only [reduceCtorEq, false_iff, not_forall]
      exact ⟨n, by omega, by simp [hm]⟩
    next hm =>
      rw [ih]
      constructor
      · intro h j hj
        rcases Nat.lt_succ_iff_lt_or_eq.mp hj with hj | rfl
        · exact h j hj
        · simpa using hm
      · exact fun h j hj => h j (by omega)

theorem lastIdx_spec {r : AvailableChannelInfo} {name : String} {n i : Nat}
    (h : lastIdx K r name n = some i) :
    i < n ∧ matchesAt K r name i = true ∧ ∀ j < n, matchesAt K r name j = true → j ≤ i := by
  induction n with
  | zero => simp [lastIdx] at h
  | succ n ih =>
    simp only [lastIdx] at h
    split at h
    · cases h
      exact ⟨by omega, ‹_›, fun j hj _ => by omega⟩
    · obtain ⟨h1, h2, h3⟩ := ih h
      refine ⟨by omega, h2, fun j hj hm => ?_⟩
      rcases Nat.lt_succ_iff_lt_or_eq.mp hj with hj | rfl
      · exact h3 j hj hm
      · simp_all

theorem visitClass_eq (r : AvailableChannelInfo) (mn mx : ℚ) (c : Channel) :
    visitClass K r mn mx c =
      match lastIdx K r c.name r.channelCfi.length with
      | none => c
      | some i => c.write (r.maxEirp.getD i .undefined) mn mx := by
  unfold visitClass
  generalize r.channelCfi.length = n
  induction n with
  | zero => rfl
  | succ n ih =>
    rw [List.range_succ, List.foldl_append, ih, List.foldl_cons, List.foldl_nil, visit_eq]
    simp only [lastIdx]
    cases lastIdx K r c.name n <;> by_cases hm : matchesAt K r c.name n = true <;> simp [hm]

/-! ## all classes: the lexicographically last matching pair -/

/-- entry `i` of class `k` is written `name`: `String(R[k].channelCfi[i]) = name` -/
def Matches (R : List AvailableChannelInfo) (name : String) (k i : Nat) : Prop :=
  ∃ r cfi, R[k]? = some r ∧ r.channelCfi[i]? = some cfi ∧ K.numberToString cfi = name

/-- `(k, i)` matches, and every matching pair comes before it or is it -/
def IsLastMatch (R : List AvailableChannelInfo) (name : String) (k i : Nat) : Prop :=
  Matches K R name k i ∧ ∀ k' i', Matches K R name k' i' → k' < k ∨ (k' = k ∧ i' ≤ i)

/-- `R[k].maxEirp[i]`, absent outside the arrays -/
def eirpAt (R : List AvailableChannelInfo) (k i : Nat) : Eirp :=
  match R[k]? with
  | some r => r.maxEirp.getD i .undefined
  | none => .undefined

/-- the last matching pair, searched from the last class -/
def lastMatch (name : String) : List AvailableChannelInfo → Option (Nat × Nat)
  | [] => none
  | r :: R => match lastMatch name R with
    | some (k, i) => some (k + 1, i)
    | none => (lastIdx K r name r.channelCfi.length).map fun i => (0, i)

theorem matches_cons_zero {r : AvailableChannelInfo} {R : List AvailableChannelInfo}
    {name : String} {i : Nat} : Matches K (r :: R) name 0 i ↔ matchesAt K r name i = true := by
  simp [Matches, matchesAt_iff]

theorem matches_cons_succ {r : AvailableChannelInfo} {R : List AvailableChannelInfo}
    {name : String} {k i : Nat} : Matches K (r :: R) name (k + 1) i ↔ Matches K R name k i := by
  simp [Matches]

theorem matchesAt_lt {r : AvailableChannelInfo} {name : String} {i : Nat}
    (h : matchesAt K r name i = true) : i < r.channelCfi.length := by
  obtain ⟨cfi, h, -⟩ := (matchesAt_iff K r name i).mp h
  exact (List.getElem?_eq_some_iff.mp h).1

theorem lastMatch_eq_none_iff (name : String) (R : List AvailableChannelInfo) :
    lastMatch K name R = none ↔ ∀ k i, ¬ Matches K R name k i := by
  induction R with
  | nil => simp [lastMatch, Matches]
  | cons r R ih =>
    simp only [lastMatch]
    cases h : lastMatch K name R with
    | some p =>
      simp only [reduceCtorEq, false_iff, not_forall, not_not]
      obtain ⟨k, i, hm⟩ := by simpa [h] using ih.not
      exact ⟨k + 1, i, matches_cons_succ K |>.mpr hm⟩
    | none =>
      simp only [Option.map_eq_none', lastIdx_eq_none_iff]
      constructor
      · intro hr k i hm
        cases k with
        | zero =>
          have hm := (matches_cons_zero K).mp hm
          simp [hr i (matchesAt_lt K hm)] at hm
        | succ k => exact ih.mp h k i ((matches_cons_succ K).mp hm)
      · exact fun hn j _ => by simpa using fun hm => hn 0 j ((matches_cons_zero K).mpr hm)

theorem lastMatch_isLast {name : String} {R : List AvailableChannelInfo} {k i : Nat}
    (h : lastMatch K name R = some (k, i)) : IsLastMatch K R name k i := by
  induction R generalizing k i with
  | nil => simp [lastMatch] at h
  | cons r R ih =>
    simp only [lastMatch] at h
    cases hR : lastMatch K name R with
    | some p =>
      obtain ⟨k', i'⟩ := p
      simp only [hR, Option.some.injEq, Prod.mk.injEq] at h
      obtain ⟨rfl, rfl⟩ := h
      obtain ⟨hm, hlast⟩ := ih hR
      refine ⟨(matches_cons_succ K).mpr hm, fun k'' i'' hm'' => ?_⟩
      cases k'' with
      | zero => omega
      | succ k'' => have := hlast k'' i'' ((matches_cons_succ K).mp hm''); omega
    | none =>
      simp only [hR, Option.map_eq_some', Prod.mk.injEq] at h
      obtain ⟨j, hj, rfl, rfl⟩ := h
      obtain ⟨-, hmj, hmax⟩ := lastIdx_spec K hj
      refine ⟨(matches_cons_zero K).mpr hmj, fun k'' i'' hm'' => ?_⟩
      cases k'' with
      | zero =>
        have hm := (matches_cons_zero K).mp hm''
        exact .inr ⟨rfl, hmax i'' (matchesAt_lt K hm) hm⟩
      | succ k'' =>
        exact absurd ((matches_cons_succ K).mp hm'') ((lastMatch_eq_none_iff K name R).mp hR k'' i'')

theorem classify_eq (R : List AvailableChannelInfo) (mn mx : ℚ) (c : Channel) :
    classify K R mn mx c =
      match lastMatch K c.name R with
      | none => c
      | some (k, i) => c.write (eirpAt R k i) mn mx := by
  induction R generalizing c with
  | nil => rfl
  | cons r R ih =>
    rw [classify_cons, ih, visitClass_eq]
    cases h : lastIdx K r c.name r.channelCfi.length <;>
      cases h' : lastMatch K c.name R <;> simp [lastMatch, h, h', eirpAt]

/-- **The classifier.**  The result has the taxonomy's groups and channels in place; a channel
that some entry names keeps its name and ends with the EIRP of the lexicographically last such
entry, coloured black when that EIRP is `null` or absent, green from `maxEirp` up, yellow from
`minEirp` up and red below; any other channel is left as the taxonomy has it. -/
theorem generateChannelData_classifies (T : List ChannelData) (R : List AvailableChannelInfo)
    (minEirp maxEirp : ℚ) :
    generateChannelData K T R minEirp maxEirp =
        T.map (fun g => { g with channels := g.channels.map (classify K R minEirp maxEirp) }) ∧
      ∀ c : Channel,
        ((∀ k i, ¬ Matches K R c.name k i) → classify K R minEirp maxEirp c = c) ∧
        ((∃ k i, Matches K R c.name k i) → ∃ k i, IsLastMatch K R c.name k i ∧
          (classify K R minEirp maxEirp c).name = c.name ∧
          (classify K R minEirp maxEirp c).maxEIRP = eirpAt R k i ∧
          (classify K R minEirp maxEirp c).color =
            match eirpAt R k i with
            | .num x => if maxEirp ≤ x then "green" else if minEirp ≤ x then "yellow" else "red"
            | _ => "black") := by
  refine ⟨generateChannelData_eq_map K T R minEirp maxEirp, fun c => ⟨fun hn => ?_, fun hm => ?_⟩⟩
  · rw [classify_eq, (lastMatch_eq_none_iff K c.name R).mpr hn]
  · cases h : lastMatch K c.name R with
    | none => exact absurd ((lastMatch_eq_none_iff K c.name R).mp h) (by simpa using hm)
    | some p =>
      obtain ⟨k, i⟩ := p
      refine ⟨k, i, lastMatch_isLast K h, ?_⟩
      rw [classify_eq, h]
      refine ⟨rfl, rfl, ?_⟩
      show eirpColor (eirpAt R k i) minEirp maxEirp = _
      cases eirpAt R k i <;> rfl

example : generateChannelData ⟨fun _ => none, fun x => if x = 5 then "5" else "?"⟩
    [⟨[⟨"5", .null, "grey"⟩, ⟨"9", .null, "grey"⟩]⟩] [⟨[5, 5], [.num 10, .num 32]⟩] 15 30 =
    [⟨[⟨"5", .num 32, "green"⟩, ⟨"9", .null, "grey"⟩]⟩] := by
  decide

end

/-! ## the page's call, on the JSON of the response

`render()` hands `generateChannelData` the response's `availableChannelInfo` as the server sent
it.  Over JSON the loops read fields that may be missing and convert what they compare, so they
can throw: `forEach` of a value that is not an array, `channelCfi` or `maxEirp` of a class that
has none, `String(x)` of an object with its own `toString`.  On the JSON of typed classes they
compute what the typed loops compute (`generateChannelDataJs_refines`). -/

structure ChannelJs where
  name : String
  maxEIRP : JVal
  color : String

structure ChannelDataJs where
  channels : List ChannelJs

def Eirp.toJVal : Eirp → JVal
  | .undefined => .undefined
  | .null => .null
  | .num x => .num x

def Channel.toJs (c : Channel) : ChannelJs := ⟨c.name, c.maxEIRP.toJVal, c.color⟩

def ChannelData.toJs (g : ChannelData) : ChannelDataJs := ⟨g.channels.map Channel.toJs⟩

/-- the class `v` carries the arrays of `r` (its other fields are not read) -/
def EncodesClass (v : JVal) (r : AvailableChannelInfo) : Prop :=
  v.get "channelCfi" = .ok (.arr (r.channelCfi.map .num)) ∧
    v.get "maxEirp" = .ok (.arr (r.maxEirp.map Eirp.toJVal))

/-- how often `for (let i = 0; i < x; i++)` runs: the naturals below `x` (none below `NaN`) -/
def countBelow : Option ℚ → Nat
  | some x => ⌈x⌉.toNat
  | none => 0

theorem lt_countBelow_iff (i : Nat) (x : Option ℚ) :
    i < countBelow x ↔ ∃ q, x = some q ∧ (i : ℚ) < q := by
  cases x with
  | none => simp [countBelow]
  | some q => simp [countBelow, Int.lt_toNat, Int.lt_ceil]

@[simp] theorem countBelow_natCast (n : Nat) : countBelow (some (n : ℚ)) = n := by
  simp [countBelow]

section
variable (K : Coerce)

def eirpColorJs (v : JVal) (minEirp maxEirp : ℚ) : Except Fault String := do
  if v.nullish then return "black"
  else if ← v.geNum K maxEirp then return "green"
  else if ← v.geNum K minEirp then return "yellow"
  else return "red"

/-- the body of the `for` loop at index `i` -/
def visitJs (channelClass channelCfi : JVal) (minEirp maxEirp : ℚ) (channel : ChannelJs)
    (i : Nat) : Except Fault ChannelJs := do
  if utf16 channel.name == (← (← channelCfi.idx i).toStr K) then
    let v ← (← channelClass.get "maxEirp").idx i
    return { channel with maxEIRP := v, color := ← eirpColorJs K v minEirp maxEirp }
  else return channel

/-- the `for` loop of one class over one channel.  Its bound `channelClass.channelCfi.length` is
read before every index; the body writes only `channel`, so each read gives the first one's
value, or throws before any index. -/
def visitClassJs (channelClass : JVal) (minEirp maxEirp : ℚ) (channel : ChannelJs) :
    Except Fault ChannelJs := do
  let channelCfi ← channelClass.get "channelCfi"
  let n ← (← channelCfi.get "length").toNumber K
  (List.range (countBelow n)).foldlM (visitJs K channelClass channelCfi minEirp maxEirp) channel

/-- `channelGroup.channels.forEach(...)` for one class -/
def visitGroupJs (channelClass : JVal) (minEirp maxEirp : ℚ) (channelGroup : ChannelDataJs) :
    Except Fault ChannelDataJs := do
  return ⟨← channelGroup.channels.mapM (visitClassJs K channelClass minEirp maxEirp)⟩

/-- `generateChannelData(channelClasses, minEirp, maxEirp)` on a JSON value -/
def generateChannelDataJs (emptyChannels : List ChannelData) (channelClasses : JVal)
    (minEirp maxEirp : ℚ) : Except Fault (List ChannelDataJs) :=
  match channelClasses with
  | .arr cs => cs.foldlM (fun channelData channelClass =>
      channelData.mapM (visitGroupJs K channelClass minEirp maxEirp))
      (emptyChannels.map ChannelData.toJs)
  | _ => .error .typeError

theorem eirpColorJs_toJVal (v : Eirp) (mn mx : ℚ) :
    eirpColorJs K v.toJVal mn mx = .ok (eirpColor v mn mx) := by
  cases v with
  | num x =>
    simp only [eirpColorJs, Eirp.toJVal, JVal.nullish, JVal.geNum, JVal.toNumber, eirpColor]
    by_cases h₁ : mx ≤ x <;> by_cases h₂ : mn ≤ x <;> simp [h₁, h₂]
  | _ => rfl

theorem visitJs_encoded {v : JVal} {r : AvailableChannelInfo} (h : EncodesClass v r)
    (mn mx : ℚ) (c : Channel) {i : Nat} (hi : i < r.channelCfi.length) :
    visitJs K v (.arr (r.channelCfi.map .num)) mn mx c.toJs i = .ok (visit K r mn mx c i).toJs := by
  have hcfi : (r.channelCfi.map JVal.num).getD i .undefined = .num r.channelCfi[i] := by
    simp [List.getD_eq_getElem?_getD, hi]
  have hd : (r.maxEirp.map Eirp.toJVal).getD i .undefined = (r.maxEirp.getD i .undefined).toJVal :=
    List.getD_map r.maxEirp .undefined Eirp.toJVal
  simp only [visitJs, visit, JVal.idx, hcfi, hd, h.2, JVal.toStr, except_pure, except_ok_bind,
    List.getElem?_eq_getElem hi, Channel.toJs]
  by_cases hn : c.name = K.numberToString r.channelCfi[i]
  · simp [hn, eirpColorJs_toJVal, Channel.write]
  · have : (utf16 c.name == utf16 (K.numberToString r.channelCfi[i])) = false :=
      beq_false_of_ne fun h => hn (utf16_injective h)
    simp [hn, this]

theorem foldlM_ok {α β γ : Type} (f : β → α → Except Fault β) (g : γ → α → γ) (enc : γ → β)
    (l : List α) (h : ∀ c x, x ∈ l → f (enc c) x = .ok (enc (g c x))) (c : γ) :
    l.foldlM f (enc c) = .ok (enc (l.foldl g c)) := by
  induction l generalizing c with
  | nil => rfl
  | cons x l ih =>
    rw [List.foldlM_cons, h c x (List.mem_cons_self x l), except_ok_bind, List.foldl_cons]
    exact ih (fun c y hy => h c y (List.mem_cons_of_mem x hy)) _

theorem mapM_map_ok {α β γ : Type} (f : β → Except Fault γ) (enc : α → β) (g : α → γ)
    (l : List α) (h : ∀ x ∈ l, f (enc x) = .ok (g x)) : (l.map enc).mapM f = .ok (l.map g) := by
  induction l with
  | nil => rfl
  | cons x l ih =>
    rw [List.map_cons, List.mapM_cons, h x (List.mem_cons_self x l), except_ok_bind,
      ih (fun y hy => h y (List.mem_cons_of_mem x hy))]
    rfl

theorem visitClassJs_encoded {v : JVal} {r : AvailableChannelInfo} (h : EncodesClass v r)
    (mn mx : ℚ) (c : Channel) :
    visitClassJs K v mn mx c.toJs = .ok (visitClass K r mn mx c).toJs := by
  rw [visitClassJs, h.1]
  simp only [except_ok_bind, JVal.get, JVal.toNumber, except_pure, List.length_map,
    countBelow_natCast, ↓reduceIte]
  exact foldlM_ok _ _ Channel.toJs _
    (fun c i hi => visitJs_encoded K h mn mx c (List.mem_range.mp hi)) c

theorem visitGroupJs_encoded {v : JVal} {r : AvailableChannelInfo} (h : EncodesClass v r)
    (mn mx : ℚ) (g : ChannelData) :
    visitGroupJs K v mn mx g.toJs =
      .ok (ChannelData.toJs { g with channels := g.channels.map (visitClass K r mn mx) }) := by
  rw [visitGroupJs, ChannelData.toJs, mapM_map_ok _ Channel.toJs _ g.channels
    (fun c _ => visitClassJs_encoded K h mn mx c)]
  simp [ChannelData.toJs]

/-- **The page's call refines the typed classifier.**  On an array of classes that carry the
arrays of typed classes `R`, the loops over JSON never throw, and give the typed result. -/
theorem generateChannelDataJs_refines (T : List ChannelData) (vs : List JVal)
    (R : List AvailableChannelInfo) (h : List.Forall₂ EncodesClass vs R) (minEirp maxEirp : ℚ) :
    generateChannelDataJs K T (.arr vs) minEirp maxEirp =
      .ok ((generateChannelData K T R minEirp maxEirp).map ChannelData.toJs) := by
  simp only [generateChannelDataJs, generateChannelData]
  induction h generalizing T with
  | nil => rfl
  | @cons v r vs R hv _ ih =>
    rw [List.foldlM_cons, mapM_map_ok _ ChannelData.toJs _ T
      (fun g _ => visitGroupJs_encoded K hv minEirp maxEirp g), except_ok_bind]
    have := ih (T.map fun g => { g with channels := g.channels.map (visitClass K r minEirp maxEirp) })
    rw [List.map_map] at this
    exact this

end

theorem generateChannelDataJs_refines_sample :
    List.Forall₂ EncodesClass
        [.obj [("globalOperatingClass", .num 133), ("channelCfi", .arr [.num 5, .num 5]),
          ("maxEirp", .arr [.num 10, .num 32])]] [⟨[5, 5], [.num 10, .num 32]⟩] ∧
      generateChannelDataJs ⟨fun _ => none, fun x => if x = 5 then "5" else "?"⟩
          [⟨[⟨"5", .null, "grey"⟩, ⟨"9", .null, "grey"⟩]⟩]
          (.arr [.obj [("globalOperatingClass", .num 133), ("channelCfi", .arr [.num 5, .num 5]),
            ("maxEirp", .arr [.num 10, .num 32])]]) 15 30 =
        .ok ((generateChannelData ⟨fun _ => none, fun x => if x = 5 then "5" else "?"⟩
          [⟨[⟨"5", .null, "grey"⟩, ⟨"9", .null, "grey"⟩]⟩] [⟨[5, 5], [.num 10, .num 32]⟩] 15 30).map
            ChannelData.toJs) :=
  have h : List.Forall₂ EncodesClass
      [.obj [("globalOperatingClass", .num 133), ("channelCfi", .arr [.num 5, .num 5]),
        ("maxEirp", .arr [.num 10, .num 32])]] [⟨[5, 5], [.num 10, .num 32]⟩] :=
    .cons ⟨rfl, rfl⟩ .nil
  ⟨h, generateChannelDataJs_refines _ _ _ _ h 15 30⟩
end RatAfc
