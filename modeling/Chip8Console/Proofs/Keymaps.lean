import Chip8Console.Keypad.Keymap
import Mathlib.Data.Fintype.Card

/-!
# Keymaps and their lists

A keymap is read off its own list again.  So the bindings of a keypad can be
handed on to another.  And there is exactly one key for every id, because
sixteen bindings without repetition leave no id out.

* `Bindings.addAll_entries`: bindings can be made in the order of their list.
* `Keymap.ofList_toList`: the round trip.
* `Keymap.id?_eq_some_iff`: the one key for an id.
-/

namespace Chip8Console

universe u

/-- In a table that has every key once, whatever is listed for a key is found. -/
theorem lookup_eq_some_iff_mem {α : Type u} {table : List (Char × α)} {key : Char} {value : α}
    (nodup : (table.map Prod.fst).Nodup) :
    table.lookup key = some value ↔ (key, value) ∈ table := by
  rw [List.lookup_eq_some_iff]
  constructor
  · rintro ⟨earlier, later, split, _⟩
    rw [split]
    exact List.mem_append_right _ List.mem_cons_self
  · intro listed
    obtain ⟨earlier, later, split⟩ := List.append_of_mem listed
    refine ⟨earlier, later, split, ?_⟩
    intro other used
    rw [split, List.map_append, List.map_cons] at nodup
    have different := (List.nodup_append.1 nodup).2.2 other.1 (List.mem_map_of_mem used) key
      List.mem_cons_self
    exact bne_iff_ne.2 (Ne.symm different)

/-- The number of an id is a byte. -/
theorem toNat_number (id : KeyId) : (UInt8.ofNat id.val).toNat = id.val := by
  rw [UInt8.toNat_ofNat']
  omega

/-- A byte is the number of one id at most. -/
theorem number_injective : Function.Injective fun id : KeyId => UInt8.ofNat id.val := by
  intro id other same
  have numbers : (UInt8.ofNat id.val).toNat = (UInt8.ofNat other.val).toNat :=
    congrArg UInt8.toNat same
  rw [toNat_number, toNat_number] at numbers
  exact Fin.ext numbers

/-- The entry that a binding is read off. -/
def entryOf (binding : Char × KeyId) : KeyEntry := (binding.1, UInt8.ofNat binding.2.val)

namespace Bindings

/-- A binding of a free key to a free id is accepted. -/
theorem add_entryOf {b : Bindings} {key : Char} {id : KeyId} (freeKey : key ∉ b.keys)
    (freeId : id ∉ b.ids) : b.add (entryOf (key, id)) = .ok (b.insert key id freeKey freeId) := by
  have inRange : (UInt8.ofNat id.val).toNat < 16 := by
    rw [toNat_number]
    exact id.isLt
  have same : (⟨(UInt8.ofNat id.val).toNat, inRange⟩ : KeyId) = id := Fin.ext (toNat_number id)
  simp only [add, entryOf, dif_pos inRange, same, dif_neg freeId, dif_neg freeKey]

/-- Bindings are made again in the order of their list. -/
theorem addAll_entries {b whole : Bindings} {rest : List (Char × KeyId)}
    (split : whole.entries = b.entries ++ rest) :
    b.addAll (rest.map entryOf) = .ok whole := by
  induction rest generalizing b with
  | nil =>
    rw [List.append_nil] at split
    obtain ⟨entries, _, _⟩ := b
    obtain ⟨entries', _, _⟩ := whole
    cases split
    rfl
  | cons binding rest ih =>
    obtain ⟨key, id⟩ := binding
    have keys := whole.keys_nodup
    have ids := whole.ids_nodup
    rw [split, List.map_append, List.map_cons] at keys ids
    have freeKey : key ∉ b.keys := fun used =>
      (List.nodup_append.1 keys).2.2 _ used _ List.mem_cons_self rfl
    have freeId : id ∉ b.ids := fun used =>
      (List.nodup_append.1 ids).2.2 _ used _ List.mem_cons_self rfl
    rw [List.map_cons, addAll, add_entryOf freeKey freeId]
    refine ih ?_
    rw [split, insert, List.append_assoc]
    rfl

end Bindings

namespace Keymap

/-- A keymap is read off its own list again. -/
theorem ofList_toList (m : Keymap) : ofList m.toList = .ok m := by
  have sixteen : m.toList.length = 16 := by
    rw [toList, List.length_map, m.length_entries]
  have read : Bindings.addAll {} m.toList = .ok m.toBindings :=
    Bindings.addAll_entries (List.nil_append _).symm
  rw [ofList, dif_pos sixteen]
  split
  · next bindings again =>
    rw [read] at again
    cases again
    rfl
  · next error again =>
    rw [read] at again
    cases again

/-! ## The key for an id -/

/-- A key stands for an id exactly if the two are bound. -/
theorem id?_eq_some_iff_mem {m : Keymap} {key : Char} {id : KeyId} :
    m.id? key = some id ↔ (key, id) ∈ m.entries :=
  lookup_eq_some_iff_mem m.keys_nodup

/-- No id is left out. -/
theorem mem_ids (m : Keymap) (id : KeyId) : id ∈ m.ids := by
  have all : m.ids.toFinset = Finset.univ := by
    apply Finset.eq_univ_of_card
    rw [Bindings.ids, List.toFinset_card_of_nodup m.ids_nodup, List.length_map, m.length_entries,
      Fintype.card_fin]
  rw [← List.mem_toFinset, all]
  exact Finset.mem_univ id

theorem isSome_binding (m : Keymap) (id : KeyId) :
    (m.entries.find? fun binding => binding.2 == id).isSome = true := by
  obtain ⟨binding, bound, same⟩ := List.mem_map.1 (m.mem_ids id)
  exact List.find?_isSome.2 ⟨binding, bound, beq_iff_eq.2 same⟩

/-- The physical key that stands for an id. -/
def keyOf (m : Keymap) (id : KeyId) : Char :=
  ((m.entries.find? fun binding => binding.2 == id).get (m.isSome_binding id)).1

/-- It is the only one. -/
theorem id?_eq_some_iff {m : Keymap} {key : Char} {id : KeyId} :
    m.id? key = some id ↔ key = m.keyOf id := by
  have bound : (m.keyOf id, id) ∈ m.entries := by
    cases found : m.entries.find? (fun binding => binding.2 == id) with
    | none =>
      have some_binding := m.isSome_binding id
      rw [found] at some_binding
      cases some_binding
    | some binding =>
      have listed := List.mem_of_find?_eq_some found
      have same : binding.2 = id := by simpa using List.find?_some found
      rw [← same] at found ⊢
      simpa only [keyOf, found, Option.get_some] using listed
  rw [id?_eq_some_iff_mem]
  constructor
  · intro other
    have twice := List.inj_on_of_nodup_map m.ids_nodup other bound rfl
    exact congrArg Prod.fst twice
  · rintro rfl
    exact bound

@[simp] theorem id?_keyOf (m : Keymap) (id : KeyId) : m.id? (m.keyOf id) = some id :=
  id?_eq_some_iff.2 rfl

theorem keyOf_inj {m : Keymap} {id other : KeyId} : m.keyOf id = m.keyOf other ↔ id = other := by
  rw [← id?_eq_some_iff, id?_keyOf, Option.some.injEq]

end Keymap

end Chip8Console
