import Mathlib.Data.List.Chain
import Mathlib.Data.List.Nodup

/-!
A directory as the list of its files with their names, from the oldest file to the newest. A
file that is renamed keeps its age, and takes the name away from the file that had it before.
The files of a rotation go from each name to the next, the oldest first.
-/

universe u v

/-- The files of a directory, from the oldest to the newest. -/
abbrev Directory (ν : Type u) (α : Type v) := List (ν × α)

namespace Directory

section

variable {ν : Type u} {α : Type v}

def names (dir : Directory ν α) : List ν := dir.map Prod.fst

theorem mem_names {dir : Directory ν α} {e : ν × α} (h : e ∈ dir) : e.1 ∈ dir.names :=
  List.mem_map_of_mem h

@[simp] theorem names_map (dir : Directory ν α) (f : ν → ν) :
    names (dir.map fun e => (f e.1, e.2)) = dir.names.map f := by
  rw [names, names, List.map_map, List.map_map]
  rfl

variable [DecidableEq ν]

/-- Whether there is a file with a name. -/
def has (dir : Directory ν α) (x : ν) : Bool := decide (x ∈ dir.names)

@[simp] theorem has_iff {dir : Directory ν α} {x : ν} : dir.has x = true ↔ x ∈ dir.names :=
  decide_eq_true_iff

/-- What is in the file with a name. -/
def get? (dir : Directory ν α) (x : ν) : Option α := (dir.find? fun e => e.1 = x).map Prod.snd

def remove (dir : Directory ν α) (x : ν) : Directory ν α := dir.filter fun e => e.1 ≠ x

def relabel (x y z : ν) : ν := if z = x then y else z

def rename (dir : Directory ν α) (x y : ν) : Directory ν α :=
  if x = y then dir else (dir.remove y).map fun e => (relabel x y e.1, e.2)

/-- A new file with nothing in it, unless there is one with this name. -/
def create (dir : Directory ν α) (x : ν) (empty : α) : Directory ν α :=
  if dir.has x then dir else dir ++ [(x, empty)]

/-- A change of what is in a file. -/
def modify (dir : Directory ν α) (x : ν) (f : α → α) : Directory ν α :=
  dir.map fun e => if e.1 = x then (e.1, f e.2) else e

end

section

variable {ν : Type u} {α : Type v} [DecidableEq ν] {dir : Directory ν α} {x y : ν}

theorem remove_of_not_mem (h : x ∉ dir.names) : dir.remove x = dir := by
  apply List.filter_eq_self.mpr
  intro e he
  exact decide_eq_true fun heq => h (heq ▸ mem_names he)

/-- Where only the oldest file can have a name, removing it takes away the oldest files. -/
theorem remove_suffix (h : ∀ y ∈ dir.names.tail, y ≠ x) : dir.remove x <:+ dir := by
  cases dir with
  | nil => exact List.suffix_rfl
  | cons e dir =>
      have hdir : x ∉ Directory.names dir := fun hx => h x hx rfl
      by_cases he : e.1 = x
      · have hremove : Directory.remove (e :: dir) x = dir := by
          rw [remove, List.filter_cons_of_neg (by simpa using he)]
          exact remove_of_not_mem hdir
        rw [hremove]
        exact List.suffix_cons e dir
      · have hkeep : x ∉ Directory.names (e :: dir) := by
          intro hx
          rcases List.mem_cons.mp hx with heq | hx
          · exact he heq.symm
          · exact hdir hx
        have hremove : Directory.remove (e :: dir) x = e :: dir := remove_of_not_mem hkeep
        exact ⟨[], hremove⟩

theorem not_mem_remove (dir : Directory ν α) (x : ν) : x ∉ (dir.remove x).names := by
  intro hx
  obtain ⟨e, he, rfl⟩ := List.mem_map.mp hx
  simpa using (List.mem_filter.mp he).2

omit [DecidableEq ν] in
theorem names_concat (dir : Directory ν α) (e : ν × α) :
    Directory.names (dir ++ [e]) = dir.names ++ [e.1] := List.map_append

/-- A change of the newest file. -/
theorem modify_concat (h : x ∉ dir.names) (a : α) (f : α → α) :
    Directory.modify (dir ++ [(x, a)]) x f = dir ++ [(x, f a)] := by
  have hsame : ∀ e ∈ dir, (if e.1 = x then (e.1, f e.2) else e) = e := by
    intro e he
    have hne : e.1 ≠ x := fun heq => h (heq ▸ mem_names he)
    rw [if_neg hne]
  rw [modify, List.map_append, List.map_congr_left hsame, List.map_id', List.map_singleton,
    if_pos rfl]

theorem get?_concat (h : x ∉ dir.names) (a : α) : Directory.get? (dir ++ [(x, a)]) x = some a := by
  have hnone : dir.find? (fun e => e.1 = x) = none := by
    apply List.find?_eq_none.mpr
    intro e he
    have hne : e.1 ≠ x := fun heq => h (heq ▸ mem_names he)
    simpa using hne
  rw [get?, List.find?_append, hnone]
  simp

@[simp] theorem get?_singleton (x : ν) (a : α) : Directory.get? [(x, a)] x = some a := by
  simp [get?]

@[simp] theorem modify_singleton (x : ν) (a : α) (f : α → α) :
    Directory.modify [(x, a)] x f = [(x, f a)] := by
  rw [modify, List.map_singleton, if_pos rfl]

/-- To a name that no file has, a file is only given another name. -/
theorem rename_of_fresh (h : y ∉ dir.names) :
    dir.rename x y = dir.map fun e => (relabel x y e.1, e.2) := by
  rw [rename]
  split
  · rename_i hsame
    symm
    apply List.map_id''
    intro e
    rw [relabel, ← hsame]
    split
    · rename_i heq
      rw [← heq]
    · rfl
  · rw [remove_of_not_mem h]

theorem relabel_of_not_mem (h : x ∉ dir.names) :
    (dir.map fun e => (relabel x y e.1, e.2)) = dir := by
  have hsame : ∀ e ∈ dir, (relabel x y e.1, e.2) = e := by
    intro e he
    have hne : e.1 ≠ x := fun heq => h (heq ▸ mem_names he)
    rw [relabel, if_neg hne]
  rw [List.map_congr_left hsame, List.map_id']

theorem not_mem_relabel (h : y ∉ dir.names) : x ∉ dir.names.map (relabel x y) := by
  intro hx
  obtain ⟨z, hz, heq⟩ := List.mem_map.mp hx
  rw [relabel] at heq
  split at heq
  · rename_i hzx
    exact h (by rw [heq, ← hzx]; exact hz)
  · rename_i hzx
    exact hzx heq

theorem nodup_relabel (hfresh : y ∉ dir.names) (hnodup : dir.names.Nodup) :
    (dir.names.map (relabel x y)).Nodup := by
  apply hnodup.map_on
  intro a ha b hb heq
  rw [relabel, relabel] at heq
  split at heq
  · rename_i hax
    split at heq
    · rename_i hbx
      rw [hax, hbx]
    · exact absurd (heq ▸ hb) hfresh
  · split at heq
    · exact absurd (heq ▸ ha) hfresh
    · exact heq

end

/-! ### A rotation -/

section

variable {ν : Type u} {α : Type v} [DecidableEq ν] {name : Nat → ν}

/-- The file with the name before the `n`-th is given that name, then the one before it, and so
on down to the first. -/
def renames (name : Nat → ν) : Nat → Directory ν α → Directory ν α
  | 0, dir => dir
  | n + 1, dir =>
      renames name n (if dir.has (name n) then dir.rename (name n) (name (n + 1)) else dir)

/-- The name that a file has after that. Where two names are the same it goes on twice. -/
def moved (name : Nat → ν) : Nat → ν → ν
  | 0, x => x
  | n + 1, x => moved name n (relabel (name n) (name (n + 1)) x)

/-- The name that is given next is always free, so that no file is overwritten. -/
theorem renames_eq {n : Nat} {dir : Directory ν α} (hfree : name n ∉ dir.names) :
    renames name n dir = dir.map fun e => (moved name n e.1, e.2) := by
  induction n generalizing dir with
  | zero => exact (List.map_id' dir).symm
  | succ n ih =>
      have hstep : (if dir.has (name n) then dir.rename (name n) (name (n + 1)) else dir) =
          dir.map fun e => (relabel (name n) (name (n + 1)) e.1, e.2) := by
        split
        · exact rename_of_fresh hfree
        · rename_i hnone
          exact (relabel_of_not_mem fun hmem => hnone (has_iff.mpr hmem)).symm
      have hnext : name n ∉
          Directory.names (dir.map fun e => (relabel (name n) (name (n + 1)) e.1, e.2)) := by
        rw [names_map]
        exact not_mem_relabel hfree
      rw [renames, hstep, ih hnext, List.map_map]
      rfl

theorem nodup_moved {n : Nat} {dir : Directory ν α} (hfree : name n ∉ dir.names)
    (hnodup : dir.names.Nodup) :
    (dir.names.map (moved name n)).Nodup ∧ name 0 ∉ dir.names.map (moved name n) := by
  induction n generalizing dir with
  | zero =>
      have hsame : dir.names.map (moved name 0) = dir.names := List.map_id' _
      rw [hsame]
      exact ⟨hnodup, hfree⟩
  | succ n ih =>
      have hnames := names_map dir (relabel (name n) (name (n + 1)))
      have hboth := @ih (dir.map fun e => (relabel (name n) (name (n + 1)) e.1, e.2))
        (by rw [hnames]; exact not_mem_relabel hfree)
        (by rw [hnames]; exact nodup_relabel hfree hnodup)
      rw [hnames, List.map_map] at hboth
      exact hboth

theorem moved_of_ne {n : Nat} {x : ν} (hx : ∀ i < n, x ≠ name i) : moved name n x = x := by
  induction n generalizing x with
  | zero => rfl
  | succ n ih =>
      rw [moved, relabel, if_neg (hx n (Nat.lt_succ_self n))]
      exact ih fun i hi => hx i (Nat.lt_succ_of_lt hi)

/-- Where the names are distinct, every file goes to the next one. -/
theorem moved_name {n : Nat} (hname : ∀ i ≤ n, ∀ j ≤ n, name i = name j → i = j) {k : Nat}
    (hk : k < n) : moved name n (name k) = name (k + 1) := by
  induction n with
  | zero => exact absurd hk (Nat.not_lt_zero k)
  | succ n ih =>
      rw [moved, relabel]
      split
      · rename_i hsame
        have hkn : k = n := hname k (by omega) n (by omega) hsame
        rw [hkn]
        apply moved_of_ne
        intro i hi heq
        have hin := hname (n + 1) (by omega) i (by omega) heq
        omega
      · rename_i hother
        have hkn : k < n := Nat.lt_of_le_of_ne (Nat.le_of_lt_succ hk) fun heq =>
          hother (congrArg name heq)
        exact ih (fun i hi j hj => hname i (by omega) j (by omega)) hkn

/-- The names that files go to. -/
theorem moved_mem {n : Nat} {x : ν} {names : List ν} (hnames : ∀ i ≤ n, name i ∈ names)
    (hx : x ∈ names) : moved name n x ∈ names := by
  induction n generalizing x with
  | zero => exact hx
  | succ n ih =>
      apply ih fun i hi => hnames i (Nat.le_succ_of_le hi)
      rw [relabel]
      split
      · exact hnames (n + 1) (Nat.le_refl _)
      · exact hx

/-- A rotation: the file with the last name goes, and every other one takes the next name. -/
def rotate (name : Nat → ν) (n : Nat) (dir : Directory ν α) : Directory ν α :=
  (dir.remove (name n)).map fun e => (moved name n e.1, e.2)

theorem names_rotate (n : Nat) (dir : Directory ν α) :
    (dir.rotate name n).names = (dir.remove (name n)).names.map (moved name n) :=
  names_map _ _

theorem renames_remove (n : Nat) (dir : Directory ν α) :
    renames name n (dir.remove (name n)) = dir.rotate name n :=
  renames_eq (not_mem_remove _ _)

theorem nodup_rotate {n : Nat} {dir : Directory ν α} (hnodup : dir.names.Nodup) :
    (dir.rotate name n).names.Nodup ∧ name 0 ∉ (dir.rotate name n).names := by
  have hkept : (dir.remove (name n)).names.Nodup := hnodup.sublist (List.filter_sublist.map _)
  rw [names_rotate]
  exact nodup_moved (not_mem_remove _ _) hkept

theorem mem_rotate {n : Nat} {dir : Directory ν α} {names : List ν}
    (hnames : ∀ i ≤ n, name i ∈ names) (hdir : ∀ x ∈ dir.names, x ∈ names) :
    ∀ x ∈ (dir.rotate name n).names, x ∈ names := by
  intro x hx
  rw [names_rotate] at hx
  obtain ⟨y, hy, rfl⟩ := List.mem_map.mp hx
  exact moved_mem hnames (hdir y ((List.filter_sublist.map _).subset hy))

end

/-- Files that have gone on one behind the other from the first name, each from one name to the
next, are numbered from the newest to the oldest. -/
theorem names_of_chain {ν : Type u} {name : Nat → ν} {f : ν → ν} {n : Nat}
    (hf : ∀ k < n, f (name k) = name (k + 1)) {xs : List ν}
    (hchain : xs.IsChain fun older newer => older = f newer)
    (hlast : ∀ a ∈ xs.getLast?, a = name 0) (hlength : xs.length ≤ n + 1) :
    xs.reverse = (List.range xs.length).map name := by
  induction xs with
  | nil => rfl
  | cons x xs ih =>
      rw [List.length_cons] at hlength
      rw [List.length_cons, List.range_succ, List.map_append, List.map_singleton,
        List.reverse_cons]
      cases xs with
      | nil =>
          rw [hlast x rfl]
          rfl
      | cons y ys =>
          rw [List.isChain_cons_cons] at hchain
          have hnewer := ih hchain.2 (by rw [← List.getLast?_cons_cons]; exact hlast) (by omega)
          -- the oldest but one is the last of the names before
          have hy : y = name ys.length := by
            have hend := congrArg List.getLast? hnewer
            rw [List.reverse_cons, List.getLast?_concat, List.length_cons, List.range_succ,
              List.map_append, List.map_singleton, List.getLast?_concat] at hend
            exact Option.some.inj hend
          rw [List.length_cons] at hlength
          rw [hnewer, hchain.1, hy, hf ys.length (by omega), List.length_cons]

/-- Files that go on one behind the other all come to the place of the file before them, and a
new file takes the place of the newest. -/
theorem map_concat_of_chain {ν : Type u} {f : ν → ν} {a k : ν} {ks : List ν}
    (hchain : (k :: ks).IsChain fun older newer => older = f newer)
    (hlast : (k :: ks).getLast? = some a) : ks.map f ++ [a] = k :: ks := by
  induction ks generalizing k with
  | nil =>
      cases hlast
      rfl
  | cons k' ks ih =>
      rw [List.isChain_cons_cons] at hchain
      rw [List.getLast?_cons_cons] at hlast
      rw [List.map_cons, List.cons_append, ih hchain.2 hlast, ← hchain.1]

/-- The newest of them that stay go on, and a new file comes behind them: it is the same chain. -/
theorem chain_concat {ν : Type u} {f : ν → ν} {a : ν} {xs kept : List ν} (hkept : kept <:+ xs)
    (hchain : xs.IsChain fun older newer => older = f newer) (hlast : xs.getLast? = some a) :
    (kept.map f ++ [a]).IsChain (fun older newer => older = f newer) ∧
      ∀ x ∈ (kept.map f ++ [a]).tail, x ∈ kept := by
  cases kept with
  | nil => exact ⟨List.isChain_singleton _, by rintro x ⟨⟩⟩
  | cons k ks =>
      have hnewest : (k :: ks).getLast? = some a := by
        obtain ⟨front, hfront⟩ := hkept
        rw [← hfront, List.getLast?_append_of_ne_nil _ (List.cons_ne_nil k ks)] at hlast
        exact hlast
      have hrest : (k :: ks).IsChain fun older newer => older = f newer := hchain.suffix hkept
      rw [List.map_cons, List.cons_append, map_concat_of_chain hrest hnewest]
      exact ⟨List.isChain_cons_cons.mpr ⟨rfl, hrest⟩, fun x hx => hx⟩

end Directory
