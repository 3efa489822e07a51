import Mathlib.Data.List.Nodup
import Mathlib.Data.List.Perm.Subperm
import Mathlib.Tactic.TypeStar

/-!
Breadth-first search in a table of nodes that name their parents. The search
finds every node below the root once, whatever cycles and loose ends the table
has.
-/

namespace TreeSearch

variable {κ ν : Type*} (key parent : ν → κ)

/-- A chain of parents in the table leads from the node to the root. -/
inductive Below (nodes : List ν) (root : κ) : ν → Prop
  | child {n : ν} : n ∈ nodes → parent n = root → Below nodes root n
  | step {m n : ν} : Below nodes root m → n ∈ nodes → parent n = key m → Below nodes root n

/-- The queue, the keys that have been visited, and the nodes found. -/
structure State (κ ν : Type*) where
  queue : List κ
  visited : List κ
  found : List ν

variable [DecidableEq κ]

/-- One node of the table, while the children of `current` are looked for. -/
def visit (current : κ) (s : State κ ν) (n : ν) : State κ ν :=
  if parent n = current ∧ key n ∉ s.visited then
    { queue := s.queue ++ [key n]
      visited := s.visited ++ [key n]
      found := s.found ++ [n] }
  else s

/-- The search takes one key off the queue in every round. -/
def rounds (nodes : List ν) : Nat → State κ ν → State κ ν
  | 0, s => s
  | fuel + 1, s =>
      match s.queue with
      | [] => s
      | current :: queue =>
          rounds nodes fuel (nodes.foldl (visit key parent current) { s with queue := queue })

/-- The search begins with the root. -/
def start (root : κ) : State κ ν := { queue := [root], visited := [root], found := [] }

/-- The nodes below the root. Every key enters the queue once, so a round for
each node and one for the root empty it. -/
def search (nodes : List ν) (root : κ) : List ν :=
  (rounds key parent nodes (nodes.length + 1)
    { queue := [root], visited := [root], found := [] }).found

/-- What holds between any two nodes of the search, after `done` rounds have
begun. -/
structure Inv (nodes : List ν) (root : κ) (done : Nat) (s : State κ ν) : Prop where
  visited : ∀ k, k ∈ s.visited ↔ k = root ∨ ∃ n ∈ s.found, key n = k
  found : ∀ n ∈ s.found, n ∈ nodes ∧ Below key parent nodes root n
  nodup : (s.found.map key).Nodup
  fresh : ∀ n ∈ s.found, key n ≠ root
  queued : ∀ k ∈ s.queue, k ∈ s.visited
  count : done + s.queue.length = s.found.length + 1

/-- Every node is a child of the root, or of a node before it. -/
def ParentsFirst (root : κ) (found : List ν) : Prop :=
  ∀ front n back, found = front ++ n :: back → parent n = root ∨ ∃ m ∈ front, parent n = key m

/-- The children of the key have been visited. -/
def Closed (nodes : List ν) (s : State κ ν) (k : κ) : Prop :=
  ∀ n ∈ nodes, parent n = k → key n ∈ s.visited

variable {key parent} {nodes : List ν} {root current : κ} {done : Nat} {s : State κ ν}

omit [DecidableEq κ] in
theorem Below.mem {n : ν} (h : Below key parent nodes root n) : n ∈ nodes := by
  cases h with
  | child hn _ => exact hn
  | step _ hn _ => exact hn

omit [DecidableEq κ] in
/-- A node whose parent was visited is below the root. -/
theorem Inv.below (h : Inv key parent nodes root done s) {n : ν} (hn : n ∈ nodes)
    (hparent : parent n ∈ s.visited) : Below key parent nodes root n := by
  rcases (h.visited _).mp hparent with hroot | ⟨m, hm, hkey⟩
  · exact .child hn hroot
  · exact .step (h.found m hm).2 hn hkey.symm

omit [DecidableEq κ] in
theorem ParentsFirst.append_singleton {found : List ν} {n : ν}
    (h : ParentsFirst key parent root found)
    (hn : parent n = root ∨ ∃ m ∈ found, parent n = key m) :
    ParentsFirst key parent root (found ++ [n]) := by
  intro front m back heq
  rcases List.eq_nil_or_concat back with rfl | ⟨back, last, rfl⟩
  · obtain ⟨rfl, hm⟩ := List.append_inj' heq rfl
    obtain rfl : n = m := List.singleton_inj.mp hm
    exact hn
  · rw [List.concat_eq_append, ← List.cons_append, ← List.append_assoc] at heq
    exact h front m back (List.append_inj' heq rfl).1

/-! ### One node -/

theorem mem_visited_visit {k : κ} {n : ν} (hk : k ∈ s.visited) :
    k ∈ (visit key parent current s n).visited := by
  unfold visit
  split
  · exact List.mem_append_left _ hk
  · exact hk

theorem mem_queue_visit {k : κ} {n : ν} (hk : k ∈ s.queue) :
    k ∈ (visit key parent current s n).queue := by
  unfold visit
  split
  · exact List.mem_append_left _ hk
  · exact hk

/-- A key that a visit adds is in the queue. -/
theorem visited_visit {k : κ} {n : ν} (hk : k ∈ (visit key parent current s n).visited) :
    k ∈ s.visited ∨ k ∈ (visit key parent current s n).queue := by
  unfold visit at hk ⊢
  split at hk
  · rename_i hnew
    rw [if_pos hnew]
    rcases List.mem_append.mp hk with hold | hkey
    · exact .inl hold
    · exact .inr (List.mem_append_right _ hkey)
  · exact .inl hk

/-- After a child of `current` was seen, its key is visited. -/
theorem key_mem_visit {n : ν} (hparent : parent n = current) :
    key n ∈ (visit key parent current s n).visited := by
  unfold visit
  split
  · exact List.mem_append_right _ List.mem_cons_self
  · rename_i hold
    exact not_not.mp fun hnew => hold ⟨hparent, hnew⟩

theorem Inv.visit (h : Inv key parent nodes root done s) (hcurrent : current ∈ s.visited)
    {n : ν} (hn : n ∈ nodes) :
    Inv key parent nodes root done (TreeSearch.visit key parent current s n) := by
  unfold TreeSearch.visit
  split
  · rename_i hnew
    obtain ⟨hparent, hfresh⟩ := hnew
    have hroot : key n ≠ root := fun heq => hfresh ((h.visited _).mpr (.inl heq))
    refine { visited := ?visited, found := ?found, nodup := ?nodup, fresh := ?fresh,
             queued := ?queued, count := ?count }
    case visited =>
      intro k
      rw [List.mem_append, h.visited]
      constructor
      · rintro ((hk | ⟨m, hm, hk⟩) | hk)
        · exact .inl hk
        · exact .inr ⟨m, List.mem_append_left _ hm, hk⟩
        · rw [List.mem_singleton.mp hk]
          exact .inr ⟨n, List.mem_append_right _ List.mem_cons_self, rfl⟩
      · rintro (hk | ⟨m, hm, hk⟩)
        · exact .inl (.inl hk)
        · rcases List.mem_append.mp hm with hm | hm
          · exact .inl (.inr ⟨m, hm, hk⟩)
          · rw [List.mem_singleton.mp hm] at hk
            exact .inr (List.mem_singleton.mpr hk.symm)
    case found =>
      intro m hm
      rcases List.mem_append.mp hm with hm | hm
      · exact h.found m hm
      · rw [List.mem_singleton.mp hm]
        exact ⟨hn, h.below hn (hparent ▸ hcurrent)⟩
    case nodup =>
      rw [List.map_append]
      refine List.nodup_append.mpr ⟨h.nodup, List.nodup_singleton _, ?_⟩
      rintro k hk k' hk' rfl
      obtain ⟨m, hm, rfl⟩ := List.mem_map.mp hk
      have hkey : key m = key n := by simpa using hk'
      exact hfresh ((h.visited _).mpr (.inr ⟨m, hm, hkey⟩))
    case fresh =>
      intro m hm
      rcases List.mem_append.mp hm with hm | hm
      · exact h.fresh m hm
      · rw [List.mem_singleton.mp hm]
        exact hroot
    case queued =>
      intro k hk
      rcases List.mem_append.mp hk with hk | hk
      · exact List.mem_append_left _ (h.queued k hk)
      · exact List.mem_append_right _ hk
    case count =>
      have hcount := h.count
      rw [List.length_append, List.length_append, List.length_singleton, List.length_singleton]
      omega
  · exact h

/-- A child of a key that was visited comes behind its parent. -/
theorem Inv.parentsFirst_visit (h : Inv key parent nodes root done s)
    (hcurrent : current ∈ s.visited) (hfirst : ParentsFirst key parent root s.found) (n : ν) :
    ParentsFirst key parent root (TreeSearch.visit key parent current s n).found := by
  unfold TreeSearch.visit
  split
  · rename_i hnew
    refine hfirst.append_singleton ?_
    rw [hnew.1]
    rcases (h.visited _).mp hcurrent with hroot | ⟨m, hm, hkey⟩
    · exact .inl hroot
    · exact .inr ⟨m, hm, hkey.symm⟩
  · exact hfirst

/-! ### One round -/

variable (key parent) in
/-- What the loop over the table does to the search. -/
structure Round (nodes : List ν) (root current : κ) (done : Nat) (s s' : State κ ν)
    (list : List ν) : Prop where
  inv : Inv key parent nodes root done s'
  visited : ∀ k ∈ s.visited, k ∈ s'.visited
  queue : ∀ k ∈ s.queue, k ∈ s'.queue
  fresh : ∀ k ∈ s'.visited, k ∈ s.visited ∨ k ∈ s'.queue
  children : ∀ n ∈ list, parent n = current → key n ∈ s'.visited

theorem parentsFirst_foldl (h : Inv key parent nodes root done s)
    (hcurrent : current ∈ s.visited) (hfirst : ParentsFirst key parent root s.found)
    {list : List ν} (hlist : ∀ n ∈ list, n ∈ nodes) :
    ParentsFirst key parent root (list.foldl (visit key parent current) s).found := by
  induction list generalizing s with
  | nil => exact hfirst
  | cons n list ih =>
      exact ih (h.visit hcurrent (hlist n List.mem_cons_self)) (mem_visited_visit hcurrent)
        (h.parentsFirst_visit hcurrent hfirst n) fun m hm => hlist m (List.mem_cons_of_mem _ hm)

theorem round_foldl (h : Inv key parent nodes root done s) (hcurrent : current ∈ s.visited)
    {list : List ν} (hlist : ∀ n ∈ list, n ∈ nodes) :
    Round key parent nodes root current done s
      (list.foldl (visit key parent current) s) list := by
  induction list generalizing s with
  | nil =>
      exact { inv := h, visited := fun _ hk => hk, queue := fun _ hk => hk,
              fresh := fun _ hk => .inl hk, children := fun n hn => nomatch hn }
  | cons n list ih =>
      have hn : n ∈ nodes := hlist n List.mem_cons_self
      have hrest := ih (h.visit hcurrent hn) (mem_visited_visit hcurrent)
        fun m hm => hlist m (List.mem_cons_of_mem _ hm)
      refine { inv := hrest.inv, visited := ?visited, queue := ?queue, fresh := ?fresh,
               children := ?children }
      case visited => exact fun k hk => hrest.visited k (mem_visited_visit hk)
      case queue => exact fun k hk => hrest.queue k (mem_queue_visit hk)
      case fresh =>
        intro k hk
        rcases hrest.fresh k hk with hk | hk
        · exact (visited_visit hk).imp_right (hrest.queue k)
        · exact .inr hk
      case children =>
        intro m hm hparent
        rcases List.mem_cons.mp hm with rfl | hm
        · exact hrest.visited _ (key_mem_visit hparent)
        · exact hrest.children m hm hparent

/-- A round closes the key that it takes off the queue, and leaves keys closed. -/
theorem closed_round {queue : List κ} {s' : State κ ν}
    (hround : Round key parent nodes root current done
      { s with queue := queue } s' nodes)
    (hclosed : ∀ k ∈ s.visited, k ∉ current :: queue → Closed key parent nodes s k) :
    ∀ k ∈ s'.visited, k ∉ s'.queue → Closed key parent nodes s' k := by
  intro k hk hqueue n hn hparent
  have hold : k ∈ s.visited := (hround.fresh k hk).resolve_right hqueue
  by_cases hcur : k = current
  · exact hround.children n hn (hparent.trans hcur)
  · have hout : k ∉ current :: queue := by
      intro hmem
      rcases List.mem_cons.mp hmem with heq | hmem
      · exact hcur heq
      · exact hqueue (hround.queue k hmem)
    exact hround.visited _ (hclosed k hold hout n hn hparent)

/-! ### The search -/

omit [DecidableEq κ] in
theorem Inv.length_le (h : Inv key parent nodes root done s) : s.found.length ≤ nodes.length :=
  ((List.Nodup.of_map key h.nodup).subperm fun n hn => (h.found n hn).1).length_le

omit [DecidableEq κ] in
theorem Inv.pop {queue : List κ} (h : Inv key parent nodes root done s)
    (hqueue : s.queue = current :: queue) :
    current ∈ s.visited ∧ Inv key parent nodes root (done + 1) { s with queue := queue } := by
  refine ⟨h.queued current (hqueue ▸ List.mem_cons_self), ?_⟩
  refine { visited := h.visited, found := h.found, nodup := h.nodup, fresh := h.fresh,
           queued := ?_, count := ?_ }
  · exact fun k hk => h.queued k (hqueue ▸ List.mem_cons_of_mem _ hk)
  · have hcount := h.count
    rw [hqueue, List.length_cons] at hcount
    show done + 1 + queue.length = s.found.length + 1
    omega

variable (key parent) in
/-- The search is over: the queue is empty, every key that was visited is closed,
and every node was found behind its parent. -/
structure Over (nodes : List ν) (root : κ) (s : State κ ν) : Prop where
  inv : ∃ done, Inv key parent nodes root done s
  empty : s.queue = []
  closed : ∀ k ∈ s.visited, Closed key parent nodes s k
  first : ParentsFirst key parent root s.found

omit [DecidableEq κ] in
theorem Over.of_empty (h : Inv key parent nodes root done s)
    (hclosed : ∀ k ∈ s.visited, k ∉ s.queue → Closed key parent nodes s k)
    (hfirst : ParentsFirst key parent root s.found) (hempty : s.queue = []) :
    Over key parent nodes root s where
  inv := ⟨done, h⟩
  empty := hempty
  closed := fun k hk => hclosed k hk (by rw [hempty]; exact List.not_mem_nil)
  first := hfirst

/-- With enough rounds the queue runs empty. -/
theorem rounds_spec {fuel : Nat} (h : Inv key parent nodes root done s)
    (hclosed : ∀ k ∈ s.visited, k ∉ s.queue → Closed key parent nodes s k)
    (hfirst : ParentsFirst key parent root s.found) (hfuel : nodes.length + 1 ≤ done + fuel) :
    Over key parent nodes root (rounds key parent nodes fuel s) := by
  induction fuel generalizing done s with
  | zero =>
      have hempty : s.queue = [] := by
        have hcount := h.count
        have hfound := h.length_le
        exact List.eq_nil_of_length_eq_zero (by omega)
      exact .of_empty h hclosed hfirst hempty
  | succ fuel ih =>
      unfold rounds
      split
      · rename_i hempty
        exact .of_empty h hclosed hfirst hempty
      · rename_i current queue hqueue
        obtain ⟨hcurrent, hpop⟩ := h.pop hqueue
        have hround := round_foldl hpop hcurrent fun n hn => hn
        have hfirst' := parentsFirst_foldl hpop hcurrent hfirst fun n hn => hn
        refine ih hround.inv ?_ hfirst' (by omega)
        exact closed_round hround (hqueue ▸ hclosed)

variable (key parent) in
/-- A round for each node and one for the root are enough. -/
theorem rounds_over (nodes : List ν) (root : κ) {fuel : Nat} (hfuel : nodes.length < fuel) :
    Over key parent nodes root (rounds key parent nodes fuel (start root)) := by
  have hstart : Inv key parent nodes root 0 (start root) :=
    { visited := fun k => by simp [start]
      found := fun n hn => nomatch hn
      nodup := List.nodup_nil
      fresh := fun n hn => nomatch hn
      queued := fun k hk => hk
      count := rfl }
  have hnone : ParentsFirst key parent root ([] : List ν) :=
    fun front n back heq => absurd heq.symm (List.append_ne_nil_of_right_ne_nil _ nofun)
  exact rounds_spec hstart (fun k hk hout => absurd hk hout) hnone (by omega)

theorem rounds_of_empty (hempty : s.queue = []) (fuel : Nat) :
    rounds key parent nodes fuel s = s := by
  cases fuel with
  | zero => rfl
  | succ fuel => rw [rounds, hempty]

theorem rounds_add (fuel more : Nat) :
    rounds key parent nodes (fuel + more) s =
      rounds key parent nodes more (rounds key parent nodes fuel s) := by
  induction fuel generalizing s with
  | zero => rw [Nat.zero_add, rounds]
  | succ fuel ih =>
      rw [Nat.succ_add]
      cases hqueue : s.queue with
      | nil => rw [rounds_of_empty hqueue, rounds_of_empty hqueue, rounds_of_empty hqueue]
      | cons current queue =>
          simp only [rounds, hqueue]
          exact ih

/-- More rounds than enough find the same. -/
theorem found_rounds {fuel : Nat} (hfuel : nodes.length < fuel) :
    (rounds key parent nodes fuel (start root)).found = search key parent nodes root := by
  have hover := rounds_over key parent nodes root (Nat.lt_succ_self nodes.length)
  obtain ⟨more, rfl⟩ := Nat.exists_eq_add_of_lt hfuel
  rw [Nat.add_right_comm, rounds_add, rounds_of_empty hover.empty]
  rfl

variable (key parent) in
theorem search_spec (nodes : List ν) (root : κ) :
    ∃ done s, Inv key parent nodes root done s ∧ s.found = search key parent nodes root ∧
      ∀ k ∈ s.visited, Closed key parent nodes s k := by
  have hover := rounds_over key parent nodes root (Nat.lt_succ_self nodes.length)
  obtain ⟨done, hinv⟩ := hover.inv
  exact ⟨done, _, hinv, rfl, hover.closed⟩

variable (key parent) in
theorem search_parentsFirst (nodes : List ν) (root : κ) :
    ParentsFirst key parent root (search key parent nodes root) :=
  (rounds_over key parent nodes root (Nat.lt_succ_self nodes.length)).first

theorem search_keys_nodup : ((search key parent nodes root).map key).Nodup := by
  obtain ⟨done, s, hinv, hfound, -⟩ := search_spec key parent nodes root
  rw [← hfound]
  exact hinv.nodup

/-- The search finds the nodes below the root, without the root itself. -/
theorem mem_search {n : ν} (hkeys : ∀ m ∈ nodes, ∀ n ∈ nodes, key m = key n → m = n) :
    n ∈ search key parent nodes root ↔ Below key parent nodes root n ∧ key n ≠ root := by
  obtain ⟨done, s, hinv, hfound, hclosed⟩ := search_spec key parent nodes root
  rw [← hfound]
  constructor
  · exact fun hn => ⟨(hinv.found n hn).2, hinv.fresh n hn⟩
  · rintro ⟨hbelow, hne⟩
    have hvisited : key n ∈ s.visited := by
      clear hne
      induction hbelow with
      | child hn hparent => exact hclosed _ ((hinv.visited _).mpr (.inl rfl)) _ hn hparent
      | step _ hn hparent ih => exact hclosed _ ih _ hn hparent
    rcases (hinv.visited _).mp hvisited with hroot | ⟨m, hm, hkey⟩
    · exact absurd hroot hne
    · rw [← hkeys m (hinv.found m hm).1 n hbelow.mem hkey]
      exact hm

/-- The search finds no more than the table holds. -/
theorem search_subperm : List.Subperm (search key parent nodes root) nodes := by
  obtain ⟨done, s, hinv, hfound, -⟩ := search_spec key parent nodes root
  rw [← hfound]
  exact (List.Nodup.of_map key hinv.nodup).subperm fun n hn => (hinv.found n hn).1

end TreeSearch
