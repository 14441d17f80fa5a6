import Mathlib

/-!
The two Go types the picker computes with. Go's `+` on `int64` wraps around
in two's complement. Go leaves the order in which `range` visits a map
unspecified, so a loop over a map is modelled against every order
(`RangeOrder`).
-/

namespace ToyScheduler.Go

/-- Two's-complement wrap of an integer onto `[-2^63, 2^63)`. -/
def wrap (x : Int) : Int := (x + 2 ^ 63) % 2 ^ 64 - 2 ^ 63

theorem le_wrap (x : Int) : -2 ^ 63 ≤ wrap x := by
  unfold wrap; omega

theorem wrap_lt (x : Int) : wrap x < 2 ^ 63 := by
  unfold wrap; omega

theorem wrap_of_le_of_lt {x : Int} (h₁ : -2 ^ 63 ≤ x) (h₂ : x < 2 ^ 63) : wrap x = x := by
  unfold wrap; omega

@[simp] theorem wrap_add_wrap (a b : Int) : wrap (wrap a + b) = wrap (a + b) := by
  unfold wrap; omega

@[simp] theorem wrap_add_wrap' (a b : Int) : wrap (a + wrap b) = wrap (a + b) := by
  unfold wrap; omega

theorem wrap_neg_of_overflow {x : Int} (h₁ : 2 ^ 63 ≤ x) (h₂ : x < 2 ^ 64) : wrap x < 0 := by
  unfold wrap; omega

/-- A Go `int64`: an integer in `[-2^63, 2^63)`. -/
structure Int64 where
  val : Int
  le_val : -2 ^ 63 ≤ val
  val_lt : val < 2 ^ 63

namespace Int64

theorem ext {a b : Int64} (h : a.val = b.val) : a = b := by
  cases a; cases b; cases h; rfl

instance : DecidableEq Int64 := fun a b =>
  decidable_of_iff (a.val = b.val) ⟨ext, congrArg val⟩

/-- The `int64` an integer wraps to. -/
def ofInt (x : Int) : Int64 := ⟨wrap x, le_wrap x, wrap_lt x⟩

instance {n : Nat} : OfNat Int64 n := ⟨ofInt n⟩

instance : Inhabited Int64 := ⟨0⟩

instance : Add Int64 := ⟨fun a b => ofInt (a.val + b.val)⟩

instance : LE Int64 := ⟨fun a b => a.val ≤ b.val⟩

instance : LT Int64 := ⟨fun a b => a.val < b.val⟩

instance (a b : Int64) : Decidable (a ≤ b) := inferInstanceAs (Decidable (a.val ≤ b.val))

instance (a b : Int64) : Decidable (a < b) := inferInstanceAs (Decidable (a.val < b.val))

/-- Go prints an `int64` in decimal. -/
instance : ToString Int64 := ⟨fun a => toString a.val⟩

@[simp] theorem val_ofInt (x : Int) : (ofInt x).val = wrap x := rfl

@[simp] theorem val_add (a b : Int64) : (a + b).val = wrap (a.val + b.val) := rfl

@[simp] theorem val_zero : (0 : Int64).val = 0 := by decide

@[simp] theorem val_default : (default : Int64).val = 0 := val_zero

theorem le_iff (a b : Int64) : a ≤ b ↔ a.val ≤ b.val := Iff.rfl

theorem lt_iff (a b : Int64) : a < b ↔ a.val < b.val := Iff.rfl

theorem not_le {a b : Int64} : ¬ a ≤ b ↔ b < a := Int.not_le

theorem not_lt {a b : Int64} : ¬ a < b ↔ b ≤ a := Int.not_lt

theorem eq_iff (a b : Int64) : a = b ↔ a.val = b.val := ⟨congrArg val, ext⟩

@[simp] theorem wrap_val (a : Int64) : wrap a.val = a.val :=
  wrap_of_le_of_lt a.le_val a.val_lt

/-- A Go loop `acc += f x` over `l` computes the exact sum, wrapped. -/
theorem val_foldl_add {α : Type} (f : α → Int64) (l : List α) (acc : Int64) :
    (l.foldl (fun s x => s + f x) acc).val = wrap (acc.val + (l.map fun x => (f x).val).sum) := by
  induction l generalizing acc with
  | nil => simp
  | cons x l ih => simp [ih, Int.add_assoc]

end Int64

/-- A Go `map[string]V`: its entries, one per key, in no particular order. -/
structure GoMap (V : Type) where
  entries : List (String × V)
  nodup_keys : (entries.map Prod.fst).Nodup

namespace GoMap

variable {V : Type}

def keys (m : GoMap V) : List String := m.entries.map Prod.fst

/-- `make(map[string]V)`. -/
def empty : GoMap V := ⟨[], List.nodup_nil⟩

/-- `v, found := m[k]`, with `found` folded into the `Option`. -/
def lookup (m : GoMap V) (k : String) : Option V := m.entries.lookup k

/-- `m[k]`: the zero value `default` when `k` is absent. -/
def get [Inhabited V] (m : GoMap V) (k : String) : V := (m.lookup k).getD default

private theorem nodup_insert (m : GoMap V) (k : String) (v : V) :
    ((m.entries.filter (fun e => e.1 != k) ++ [(k, v)]).map Prod.fst).Nodup := by
  rw [List.map_append, List.nodup_append]
  refine ⟨(List.Sublist.map _ (List.filter_sublist _)).nodup m.nodup_keys,
    List.nodup_singleton _, ?_⟩
  simp only [List.map_cons, List.map_nil, List.disjoint_singleton, List.mem_map, List.mem_filter,
    bne_iff_ne, ne_eq]
  rintro ⟨e, ⟨-, hne⟩, rfl⟩
  exact hne rfl

/-- `m[k] = v`. -/
def insert (m : GoMap V) (k : String) (v : V) : GoMap V :=
  ⟨m.entries.filter (fun e => e.1 != k) ++ [(k, v)], nodup_insert m k v⟩

/-- An order in which `for k, v := range m` may visit `m`: every entry once. -/
structure RangeOrder (m : GoMap V) where
  visits : List (String × V)
  perm : visits.Perm m.entries

/-- The order in which the entries are stored; one of the orders `range` may take. -/
def RangeOrder.stored (m : GoMap V) : RangeOrder m := ⟨m.entries, List.Perm.refl _⟩

@[simp] theorem keys_empty : (empty : GoMap V).keys = [] := rfl

@[simp] theorem lookup_empty (k : String) : (empty : GoMap V).lookup k = none := rfl

theorem mem_keys {m : GoMap V} {k : String} : k ∈ m.keys ↔ ∃ v, (k, v) ∈ m.entries := by
  simp only [keys, List.mem_map]
  constructor
  · rintro ⟨⟨k', v⟩, hmem, rfl⟩
    exact ⟨v, hmem⟩
  · rintro ⟨v, hmem⟩
    exact ⟨(k, v), hmem, rfl⟩

@[simp] theorem mem_keys_insert {m : GoMap V} {k k' : String} {v : V} :
    k' ∈ (m.insert k v).keys ↔ k' = k ∨ k' ∈ m.keys := by
  simp only [keys, insert, List.map_append, List.mem_append, List.mem_map, List.mem_filter,
    bne_iff_ne, ne_eq, List.map_cons, List.map_nil, List.mem_singleton]
  constructor
  · rintro (⟨e, ⟨he, -⟩, rfl⟩ | rfl)
    · exact .inr ⟨e, he, rfl⟩
    · exact .inl rfl
  · rintro (rfl | ⟨e, he, rfl⟩)
    · exact .inr rfl
    · by_cases hk : e.1 = k
      · exact .inr hk
      · exact .inl ⟨e, ⟨he, hk⟩, rfl⟩

@[simp] theorem lookup_cons (k k' : String) (v : V) (l : List (String × V)) :
    ((k, v) :: l).lookup k' = if k' = k then some v else l.lookup k' := by
  simp only [List.lookup_cons]
  split <;> simp_all

private theorem lookup_filter_ne (l : List (String × V)) (k k' : String) :
    (l.filter fun e => e.1 != k).lookup k' = if k' = k then none else l.lookup k' := by
  induction l with
  | nil => simp only [List.filter_nil, List.lookup_nil, ite_self]
  | cons e l ih =>
      obtain ⟨k₀, v₀⟩ := e
      by_cases h₀ : k₀ = k
      · subst h₀
        rw [List.filter_cons_of_neg (by simp), ih, lookup_cons]
        by_cases h' : k' = k₀ <;> simp only [h', if_true, if_false]
      · rw [List.filter_cons_of_pos (by simpa using h₀), lookup_cons, lookup_cons, ih]
        by_cases h' : k' = k₀
        · subst h'
          simp only [h₀, if_true, if_false]
        · simp only [h', if_false]

@[simp] theorem lookup_insert (m : GoMap V) (k k' : String) (v : V) :
    (m.insert k v).lookup k' = if k' = k then some v else m.lookup k' := by
  simp only [lookup, insert, List.lookup_append, lookup_filter_ne]
  by_cases h : k' = k <;> simp [h]

theorem lookup_of_mem {m : GoMap V} {k : String} {v : V} (h : (k, v) ∈ m.entries) :
    m.lookup k = some v := by
  obtain ⟨entries, hnodup⟩ := m
  simp only [lookup]
  induction entries with
  | nil => simp at h
  | cons e l ih =>
      obtain ⟨k₀, v₀⟩ := e
      rw [List.map_cons, List.nodup_cons] at hnodup
      rcases List.mem_cons.mp h with he | hl
      · cases he; simp
      · have hk : k ≠ k₀ := by
          rintro rfl
          exact hnodup.1 (List.mem_map.mpr ⟨_, hl, rfl⟩)
        simpa [hk] using ih hnodup.2 hl

theorem mem_of_lookup_eq_some {l : List (String × V)} {k : String} {v : V}
    (h : l.lookup k = some v) : (k, v) ∈ l := by
  induction l with
  | nil => cases h
  | cons e l ih =>
      obtain ⟨k₀, v₀⟩ := e
      rw [lookup_cons] at h
      split at h
      · next hk =>
          cases h
          rw [hk]
          exact List.mem_cons_self _ _
      · exact List.mem_cons_of_mem _ (ih h)

theorem lookup_eq_some_iff {m : GoMap V} {k : String} {v : V} :
    m.lookup k = some v ↔ (k, v) ∈ m.entries :=
  ⟨mem_of_lookup_eq_some, lookup_of_mem⟩

theorem get_of_mem [Inhabited V] {m : GoMap V} {k : String} {v : V}
    (h : (k, v) ∈ m.entries) : m.get k = v := by
  simp [get, lookup_of_mem h]

theorem mem_entries_of_mem_keys [Inhabited V] {m : GoMap V} {k : String} (h : k ∈ m.keys) :
    (k, m.get k) ∈ m.entries := by
  obtain ⟨v, hv⟩ := mem_keys.mp h
  rwa [get_of_mem hv]

section FoldInsert

variable {α : Type} (key : α → String) (value : α → V)

theorem mem_keys_foldl_insert (l : List α) (m : GoMap V) (k : String) :
    k ∈ (l.foldl (fun m a => m.insert (key a) (value a)) m).keys ↔
      k ∈ m.keys ∨ k ∈ l.map key := by
  induction l generalizing m with
  | nil => simp
  | cons a l ih =>
      simp only [List.foldl_cons, ih, mem_keys_insert, List.map_cons, List.mem_cons]
      tauto

theorem lookup_foldl_insert_of_not_mem {l : List α} {k : String} (hk : k ∉ l.map key)
    (m : GoMap V) :
    (l.foldl (fun m a => m.insert (key a) (value a)) m).lookup k = m.lookup k := by
  induction l generalizing m with
  | nil => rfl
  | cons a l ih =>
      simp only [List.map_cons, List.mem_cons, not_or] at hk
      simp [ih hk.2, hk.1]

theorem lookup_foldl_insert_of_mem {l : List α} (hl : (l.map key).Nodup) {a : α}
    (ha : a ∈ l) (m : GoMap V) :
    (l.foldl (fun m a => m.insert (key a) (value a)) m).lookup (key a) = some (value a) := by
  induction l generalizing m with
  | nil => simp at ha
  | cons b l ih =>
      rw [List.map_cons, List.nodup_cons] at hl
      rcases List.mem_cons.mp ha with rfl | ha
      · simp [lookup_foldl_insert_of_not_mem key value hl.1]
      · exact ih hl.2 ha _

end FoldInsert

theorem RangeOrder.mem_visits {m : GoMap V} (o : RangeOrder m) {e : String × V} :
    e ∈ o.visits ↔ e ∈ m.entries :=
  o.perm.mem_iff

end GoMap

end ToyScheduler.Go
