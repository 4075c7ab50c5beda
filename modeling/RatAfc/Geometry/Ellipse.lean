import Mathlib

/-!
# The RLAN ellipse as a polygon ring (`rasterizeEllipse`)

`rasterizeEllipse e n` of `RatAfc.tsx` samples the ellipse at the `n + 1` angles
`i * (2π / n)`, `i = 0, ..., n`, rotates each offset by the orientation, turns it into a degree
offset at the centre's latitude and adds the centre.  `rotate` and `meterOffsetToDeg` come from
`Lib/Utils`, which is not part of the sources: they are parameters, as are `Math.PI`, `Math.sin`
and `Math.cos` (`JsMath`), so that the same definition runs over `ℚ` and is proved over `ℝ`.

* `rasterizeEllipse_length`, `rasterizeEllipse_getElem?`   the `i`-th point is the image of the
  `i`-th sample, and there are `n + 1` of them;
* `rasterizeEllipse_closed`   the ring is closed when `sin` and `cos` repeat after `n` steps;
* `rasterizeEllipse_closed_ring`   over the reals, for every ellipse and every `n ≥ 1`;
* `rasterizeEllipse_degenerate`   for `n ≥ 1`, an ellipse with both axes `0` gives its centre,
  repeated.
-/

namespace RatAfc

/-- `Point` of `RatAfcTypes.ts` -/
structure Point (α : Type) where
  latitude : α
  longitude : α

/-- `Ellipse` of `RatAfcTypes.ts`: axes in meters, orientation in degrees -/
structure Ellipse (α : Type) where
  center : Point α
  majorAxis : α
  minorAxis : α
  orientation : α

/-- the members of `Math` that `rasterizeEllipse` calls -/
structure JsMath (α : Type) where
  PI : α
  sin : α → α
  cos : α → α
  deriving Inhabited

section
variable {α : Type} [Field α] (M : JsMath α) (rotate : α → α × α → α × α)
  (meterOffsetToDeg : α → α × α → α × α)

/-- `rasterizeEllipse(e, n)`: `n + 1` points `[lng, lat]` on the boundary of `e`, for `n ≥ 1`;
at `n = 0` JavaScript computes `2π / 0 · 0 = NaN`, which a field has no value for, and the page
only calls it with `32` -/
def rasterizeEllipse (e : Ellipse α) (n : Nat) : List (α × α) :=
  let omega := 2 * M.PI / n
  (((List.range (n + 1)).map fun (i : Nat) =>
      let alpha := omega * (i : α)
      (e.majorAxis * M.sin alpha, e.minorAxis * M.cos alpha))
    |>.map (rotate (e.orientation * M.PI / 180))
    |>.map (meterOffsetToDeg e.center.latitude))
    |>.map fun p => (p.1 + e.center.longitude, p.2 + e.center.latitude)

/-- the offset of the `i`-th sample, before rotation -/
def ellipseSample (e : Ellipse α) (n i : Nat) : α × α :=
  (e.majorAxis * M.sin (2 * M.PI / n * i), e.minorAxis * M.cos (2 * M.PI / n * i))

/-- rotation, degree conversion and translation to the centre -/
def toMapCoord (e : Ellipse α) (p : α × α) : α × α :=
  let q := meterOffsetToDeg e.center.latitude (rotate (e.orientation * M.PI / 180) p)
  (q.1 + e.center.longitude, q.2 + e.center.latitude)

@[simp] theorem rasterizeEllipse_length (e : Ellipse α) (n : Nat) :
    (rasterizeEllipse M rotate meterOffsetToDeg e n).length = n + 1 := by
  simp only [rasterizeEllipse, List.length_map, List.length_range]

theorem rasterizeEllipse_getElem? (e : Ellipse α) (n i : Nat) :
    (rasterizeEllipse M rotate meterOffsetToDeg e n)[i]? =
      if i < n + 1 then some (toMapCoord M rotate meterOffsetToDeg e (ellipseSample M e n i))
      else none := by
  by_cases h : i < n + 1
  · simp only [rasterizeEllipse, toMapCoord, ellipseSample, h, List.getElem?_map,
      List.getElem?_range h, Option.map_some', if_true]
  · rw [if_neg h, List.getElem?_eq_none (by rw [rasterizeEllipse_length]; omega)]

/-- the last point is the first as soon as `sin` and `cos` take the same values at the angles
`n * (2π / n)` and `0` -/
theorem rasterizeEllipse_closed (e : Ellipse α) (n : Nat)
    (hsin : M.sin (2 * M.PI / n * n) = M.sin (2 * M.PI / n * 0))
    (hcos : M.cos (2 * M.PI / n * n) = M.cos (2 * M.PI / n * 0)) :
    (rasterizeEllipse M rotate meterOffsetToDeg e n).getLast? =
      (rasterizeEllipse M rotate meterOffsetToDeg e n).head? := by
  rw [List.getLast?_eq_getElem?, List.head?_eq_getElem?, rasterizeEllipse_length,
    Nat.add_sub_cancel, rasterizeEllipse_getElem?, rasterizeEllipse_getElem?]
  simp only [Nat.lt_succ_self, Nat.zero_lt_succ, if_true, ellipseSample, Nat.cast_zero]
  rw [hsin, hcos]

/-- **Degenerate ellipses.**  With both axes `0` every sample is the zero offset, so the ring
collapses to the centre, repeated, as soon as `rotate` and `meterOffsetToDeg` fix that offset. -/
theorem rasterizeEllipse_degenerate (e : Ellipse α) (n : Nat) (_hn : 1 ≤ n) (h1 : e.majorAxis = 0)
    (h2 : e.minorAxis = 0) (hr : ∀ θ, rotate θ (0, 0) = (0, 0))
    (hm : ∀ lat, meterOffsetToDeg lat (0, 0) = (0, 0)) :
    rasterizeEllipse M rotate meterOffsetToDeg e n =
      List.replicate (n + 1) (e.center.longitude, e.center.latitude) := by
  rw [List.eq_replicate_iff]
  refine ⟨rasterizeEllipse_length .., fun p hp => ?_⟩
  simp only [rasterizeEllipse, List.map_map, List.mem_map, List.mem_range] at hp
  obtain ⟨i, -, rfl⟩ := hp
  simp only [Function.comp_apply, h1, h2, zero_mul, hr, hm, zero_add]

end

theorem rasterizeEllipse_degenerate_point :
    1 ≤ 4 ∧ rasterizeEllipse (default : JsMath ℚ) (fun _ p => p) (fun _ p => p)
      ⟨⟨41, -74⟩, 0, 0, 90⟩ 4 = List.replicate 5 (-74, 41) :=
  ⟨by decide, rasterizeEllipse_degenerate _ _ _ _ 4 (by decide) rfl rfl (fun _ => rfl)
    (fun _ => rfl)⟩

theorem rasterizeEllipse_closed_ring (rotate meterOffsetToDeg : ℝ → ℝ × ℝ → ℝ × ℝ)
    (e : Ellipse ℝ) (n : Nat) (hn : 1 ≤ n) :
    let pts := rasterizeEllipse ⟨Real.pi, Real.sin, Real.cos⟩ rotate meterOffsetToDeg e n
    pts.length = n + 1 ∧
      (∀ i < n + 1, pts[i]? = some (toMapCoord ⟨Real.pi, Real.sin, Real.cos⟩ rotate meterOffsetToDeg e
        (e.majorAxis * Real.sin (2 * Real.pi / n * i), e.minorAxis * Real.cos (2 * Real.pi / n * i)))) ∧
      pts.getLast? = pts.head? := by
  have hn0 : (n : ℝ) ≠ 0 := by exact_mod_cast (show n ≠ 0 by omega)
  have h2pi : 2 * Real.pi / n * n = 2 * Real.pi := div_mul_cancel₀ _ hn0
  refine ⟨rasterizeEllipse_length .., fun i hi => ?_, ?_⟩
  · rw [rasterizeEllipse_getElem?, if_pos hi]; rfl
  · apply rasterizeEllipse_closed <;> simp [h2pi]

theorem rasterizeEllipse_closed_ring_sample :
    1 ≤ 32 ∧ (rasterizeEllipse ⟨Real.pi, Real.sin, Real.cos⟩ (fun _ p => p) (fun _ p => p)
      ⟨⟨41, -74⟩, 200, 100, 90⟩ 32).getLast? =
      (rasterizeEllipse ⟨Real.pi, Real.sin, Real.cos⟩ (fun _ p => p) (fun _ p => p) ⟨⟨41, -74⟩, 200, 100, 90⟩ 32).head? :=
  ⟨by norm_num, (rasterizeEllipse_closed_ring _ _ ⟨⟨41, -74⟩, 200, 100, 90⟩ 32 (by norm_num)).2.2⟩

end RatAfc
