import SignalingServer.Lib.Splitting
import SignalingServer.Tools.AvFrame

/-!
`vStringSplit` (tools/CodeConversion.cpp). The place that `find` gives is put into an `int`, whose
sign says whether there is one, and goes back into a `size_t` when it is used.
-/

namespace SignalingServer

namespace StringSplit

open Splitting

/-- The conversion to a `size_t`. -/
def toSize (n : Int) : Nat := (n % 2 ^ 64).toNat

/-- `std::string::find`, with `npos` where there is nothing to find. -/
def find (s delim : List UInt8) (pos : Nat) : Nat := (firstFrom delim s pos).getD (2 ^ 64 - 1)

/-- `std::string::substr` at a position inside the string. -/
def substr (s : List UInt8) (pos n : Nat) : List UInt8 := (s.drop pos).take n

/-- The loop, with the rounds it may still take; `none` when it has not ended by then. -/
def splitLoop (s delim : List UInt8) :
    Nat → Nat → List (List UInt8) → Option (List (List UInt8))
  | 0, _, _ => none
  | rounds + 1, pos, elems =>
      if pos < s.length then
        let findPos := AvFrame.toInt (find s delim pos)
        if findPos < 0 then some (elems ++ [substr s pos (s.length - pos)])
        else
          splitLoop s delim rounds (toSize (findPos + delim.length))
            (elems ++ [substr s pos (toSize (findPos - pos))])
      else some elems

/-- `vStringSplit`. A round goes on by one byte at least, where places fit into an `int`. -/
def vStringSplit (s delim : List UInt8) : Option (List (List UInt8)) :=
  if delim.length = 0 then some [] else splitLoop s delim (s.length + 1) 0 []

theorem toSize_natCast {n : Nat} (hn : n < 2 ^ 64) : toSize n = n := by
  rw [toSize]
  omega

theorem toInt_npos : AvFrame.toInt (2 ^ 64 - 1) = -1 := by decide

variable {s delim : List UInt8}

/-- Where the delimiter does not stand any more, the rest of the string is the last piece. -/
theorem splitLoop_last {rounds pos : Nat} (hmore : pos < s.length)
    (hfind : firstFrom delim s pos = none) (elems : List (List UInt8)) :
    splitLoop s delim (rounds + 1) pos elems = some (elems ++ [s.drop pos]) := by
  have hneg : AvFrame.toInt (find s delim pos) = -1 := by
    rw [find, hfind]
    exact toInt_npos
  rw [splitLoop, if_pos hmore]
  dsimp only
  rw [hneg, if_pos (by decide), substr, ← List.length_drop, List.take_length]

section

variable (hdelim : delim ≠ []) (hs : s.length < 2 ^ 31)

include hdelim hs

/-- Where it stands, the place survives the way into an `int` and back, and the next round begins
behind it. -/
theorem splitLoop_next {rounds pos n : Nat} (hmore : pos < s.length)
    (hfind : firstFrom delim s pos = some n) (elems : List (List UInt8)) :
    splitLoop s delim (rounds + 1) pos elems =
      splitLoop s delim rounds (n + delim.length) (elems ++ [substr s pos (n - pos)]) := by
  obtain ⟨hle, hocc, -⟩ := firstFrom_eq_some hfind
  have hlen := Occurs.le_length hocc hdelim
  have hint : AvFrame.toInt (find s delim pos) = n := by
    rw [find, hfind, Option.getD_some]
    exact AvFrame.toInt_eq_iff.mpr (by omega)
  have hnext : toSize ((n : Int) + delim.length) = n + delim.length := by
    rw [← Int.natCast_add, toSize_natCast (by omega)]
  have hcount : toSize ((n : Int) - pos) = n - pos := by
    rw [← Int.natCast_sub hle, toSize_natCast (by omega)]
  rw [splitLoop, if_pos hmore]
  dsimp only
  rw [hint, if_neg (by omega), hnext, hcount]

/-- From any place, the loop appends the pieces of the rest of the string. -/
theorem splitLoop_splits (rounds pos : Nat) (hrounds : s.length - pos < rounds)
    (elems : List (List UInt8)) :
    ∃ pieces, splitLoop s delim rounds pos elems = some (elems ++ pieces) ∧
      Splits delim (s.drop pos) pieces := by
  induction rounds generalizing pos elems with
  | zero => exact absurd hrounds (Nat.not_lt_zero _)
  | succ rounds ih =>
      by_cases hmore : pos < s.length
      · cases hfind : firstFrom delim s pos with
        | none =>
            exact ⟨[s.drop pos], splitLoop_last hmore hfind elems,
              .of_none hmore (firstFrom_eq_none hdelim hfind)⟩
        | some n =>
            obtain ⟨hle, hocc, hfirst⟩ := firstFrom_eq_some hfind
            have hpos : 0 < delim.length := List.length_pos_iff.mpr hdelim
            obtain ⟨pieces, hloop, hsplits⟩ := ih (n + delim.length) (by omega)
              (elems ++ [substr s pos (n - pos)])
            refine ⟨substr s pos (n - pos) :: pieces, ?_, hsplits.of_first hle hocc hfirst⟩
            rw [splitLoop_next hdelim hs hmore hfind, hloop, List.append_assoc]
            rfl
      · rw [splitLoop, if_neg hmore, List.drop_eq_nil_iff.mpr (Nat.le_of_not_lt hmore)]
        exact ⟨[], by rw [List.append_nil], .nil⟩

theorem vStringSplit_splits : ∃ elems, vStringSplit s delim = some elems ∧
    Splits delim s elems := by
  have hpos : 0 < delim.length := List.length_pos_iff.mpr hdelim
  have hloop := splitLoop_splits hdelim hs (s.length + 1) 0 (by omega) []
  rw [vStringSplit, if_neg (Nat.ne_of_gt hpos)]
  exact hloop

end

/-- `vStringSplit` ends, no piece has the delimiter in it, and the pieces with the delimiter
between them are the string, but for a delimiter at its end. -/
theorem vStringSplit_join (s delim : List UInt8) (hs : s.length < 2 ^ 31) (hdelim : delim ≠ []) :
    ∃ elems, vStringSplit s delim = some elems ∧ (∀ piece ∈ elems, ¬ delim <:+: piece) ∧
      (delim.intercalate elems = s ∨ delim.intercalate elems ++ delim = s) := by
  obtain ⟨elems, hsplit, hsplits⟩ := vStringSplit_splits hdelim hs
  exact ⟨elems, hsplit, hsplits.free hdelim, hsplits.join⟩

/-- `"a--b---"` at `"--"`: the pieces are `"a"`, `"b"` and `"-"`. -/
theorem vStringSplit_join_dashes :
    ∃ elems, vStringSplit [97, 45, 45, 98, 45, 45, 45] [45, 45] = some elems ∧
      (∀ piece ∈ elems, ¬ [45, 45] <:+: piece) ∧
        ([45, 45].intercalate elems = [97, 45, 45, 98, 45, 45, 45] ∨
          [45, 45].intercalate elems ++ [45, 45] = [97, 45, 45, 98, 45, 45, 45]) :=
  vStringSplit_join _ _ (by decide) (by decide)

end StringSplit

end SignalingServer
