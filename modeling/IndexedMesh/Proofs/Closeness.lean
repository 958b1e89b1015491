import IndexedMesh.Proofs.Complement
import IndexedMesh.Vertex.Matching

/-!
# Closeness of texture coordinates

Two numbers are as far apart in one order as in the other. Exact differences are opposite, rounding
treats a number and its opposite alike, and packing never lets the sign touch the other two fields:
so the two rounded differences agree but for their signs, infinite and undefined ones included.

A finite number is at no distance from itself. With infinities and numbers that are undefined this
fails, so closeness is symmetric always and reflexive for finite coordinates, and it need not be
transitive at all.

## Main results

* `abs_sub_comm_float32` — the distance of two numbers does not depend on their order.
* `Texcoord.isClose_comm`, `Texcoord.isClose_self` — symmetry, and reflexivity where it holds.
-/

namespace IndexedMesh

/-! ## Distances -/

section

open Float.Model Float.Model.UnpackedFloat

variable {f : Format}

private theorem abs_unpack_packComponents (s s' : Sign) (e : BitVec f.exponentBits)
    (m : BitVec f.mantissaBitsWithoutImplicit) :
    (UnpackedFloat.unpack f (packComponents f s e m)).abs =
      (UnpackedFloat.unpack f (packComponents f s' e m)).abs := by
  simp only [UnpackedFloat.unpack, unpackMantissa_packComponents, unpackExponent_packComponents]
  split
  · split <;> rfl
  split
  · split <;> rfl
  · rfl

/-- What is packed is read back the same but for the sign, whatever sign it had. -/
private theorem abs_unpack_pack {x y : UnpackedFloat} (h : x.abs = y.abs) :
    (UnpackedFloat.unpack f (UnpackedFloat.pack f x)).abs =
      (UnpackedFloat.unpack f (UnpackedFloat.pack f y)).abs := by
  cases x <;> cases y <;> cases h
  · exact abs_unpack_packComponents ..
  · rfl
  · exact abs_unpack_packComponents ..
  · simp only [UnpackedFloat.pack]
    split
    · exact abs_unpack_packComponents ..
    split <;> exact abs_unpack_packComponents ..

private theorem abs_round (s s' : Sign) (m : Nat) (e : ℤ) :
    (UnpackedFloat.round f s m e).abs = (UnpackedFloat.round f s' m e).abs := by
  simp only [UnpackedFloat.round, roundWithAccuracy]
  split <;> rfl

private theorem abs_normalize_neg (m : ℤ) (e : ℤ) (s : Sign) :
    (UnpackedFloat.normalize f (-m) e s).abs = (UnpackedFloat.normalize f m e s).abs := by
  rcases lt_trichotomy m 0 with hNeg | rfl | hPos
  · have hOpposite : 0 < -m := Int.neg_pos_of_neg hNeg
    simp only [UnpackedFloat.normalize, compare_lt_iff_lt.2 hNeg, compare_gt_iff_gt.2 hOpposite]
    exact abs_round ..
  · rfl
  · have hOpposite : -m < 0 := Int.neg_neg_of_pos hPos
    simp only [UnpackedFloat.normalize, compare_gt_iff_gt.2 hPos, compare_lt_iff_lt.2 hOpposite,
      neg_neg]
    exact abs_round ..

private theorem abs_sub_comm_unpacked (x y : UnpackedFloat) :
    (UnpackedFloat.sub f x y).abs = (UnpackedFloat.sub f y x).abs := by
  cases x with
  | notANumber => cases y <;> rfl
  | infinity s =>
      cases y with
      | infinity s' => cases s <;> cases s' <;> rfl
      | _ => rfl
  | zero s =>
      cases y with
      | zero s' => cases s <;> cases s' <;> rfl
      | _ => rfl
  | finite s m e hm =>
      cases y with
      | finite s' m' e' hm' =>
          simp only [UnpackedFloat.sub]
          rw [← abs_normalize_neg, neg_sub, min_comm]
      | _ => rfl

/-- **The distance of two numbers does not depend on their order.** -/
theorem abs_sub_comm_float32 (x y : Float32) : (x - y).abs = (y - x).abs :=
  congrArg (Float32.ofModel ∘ Float32.Model.pack)
    (abs_unpack_pack (abs_sub_comm_unpacked x.toModel.unpack y.toModel.unpack))

/-- A finite number minus itself is zero. -/
theorem sub_self_of_isFinite {x : Float32} (h : x.isFinite = true) : x - x = 0 := by
  change Float32.ofModel (Float32.Model.pack (UnpackedFloat.sub .binary32
    x.toModel.unpack x.toModel.unpack)) = 0
  have hSub : UnpackedFloat.sub .binary32 x.toModel.unpack x.toModel.unpack = .zero .positive := by
    rcases unpack_of_isFinite h with ⟨sign, hZero⟩ | ⟨sign, m, e, hm, hFinite, -, -⟩
    · rw [hZero]
      cases sign <;> rfl
    · rw [hFinite]
      simp only [UnpackedFloat.sub, sub_self]
      rfl
  rw [hSub]
  rfl

end

/-! ## Closeness -/

/-- **Closeness is symmetric.** -/
theorem Texcoord.isClose_comm (tolerance : Float32) (a b : Texcoord) :
    a.isClose tolerance b = b.isClose tolerance a := by
  rw [isClose, isClose, abs_sub_comm_float32 a.u, abs_sub_comm_float32 a.v]

/-- A finite vertex is close to itself. -/
theorem Texcoord.isClose_self {uv : Texcoord} (hU : uv.u.isFinite = true)
    (hV : uv.v.isFinite = true) : uv.isClose uvTolerance uv = true := by
  rw [isClose, sub_self_of_isFinite hU, sub_self_of_isFinite hV]
  decide

end IndexedMesh
