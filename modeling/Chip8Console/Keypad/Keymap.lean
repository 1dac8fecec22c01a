import Chip8Console.Failure

/-!
# Keymaps

The sixteen keys of the keypad have ids from zero to fifteen.  A *keymap* says
which physical key stands for which id.  It is a bijection between the ids and
sixteen physical keys, and the type says so: no key and no id occurs twice, and
there are sixteen bindings.

`Keymap.ofList` reads a keymap off a list of entries.  It fails on a list of the
wrong length, and else at the first entry that is bad with respect to the
entries before it.  An id out of range comes before an id that is taken, and
that before a key that is taken.
-/

namespace Chip8Console

/-- The id of a key on the keypad. -/
abbrev KeyId := Fin 16

/-- How many keys the keypad has. -/
def keyCount : Nat := 16

/-- The byte that stands for no key. -/
def noKey : UInt8 := 0x10

/-- The byte a core sees for the latched key. -/
def keyCode : Option KeyId → UInt8
  | some id => UInt8.ofNat id.val
  | none => noKey

/-- A physical key and the number it is to stand for. -/
abbrev KeyEntry := Char × UInt8

/-! ## Bindings -/

/-- Bindings of keys to ids, without repetition. -/
structure Bindings where
  /-- The bindings, in the order in which they were made. -/
  entries : List (Char × KeyId) := []
  /-- No key is bound twice. -/
  keys_nodup : (entries.map Prod.fst).Nodup := by simp
  /-- No id is bound twice. -/
  ids_nodup : (entries.map Prod.snd).Nodup := by simp

namespace Bindings

/-- The ids in use. -/
def ids (b : Bindings) : List KeyId := b.entries.map Prod.snd

/-- The keys in use. -/
def keys (b : Bindings) : List Char := b.entries.map Prod.fst

/-- One binding more, of a key and an id that are both free. -/
def insert (b : Bindings) (key : Char) (id : KeyId) (freeKey : key ∉ b.keys)
    (freeId : id ∉ b.ids) : Bindings where
  entries := b.entries ++ [(key, id)]
  keys_nodup := by
    simpa [List.nodup_append, b.keys_nodup] using fun other _ bound => by
      rintro rfl
      exact freeKey (List.mem_map.2 ⟨_, bound, rfl⟩)
  ids_nodup := by
    simpa [List.nodup_append, b.ids_nodup] using fun _ other bound => by
      rintro rfl
      exact freeId (List.mem_map.2 ⟨_, bound, rfl⟩)

/-- One entry more, if it is a binding of a free key to a free id. -/
def add (b : Bindings) (entry : KeyEntry) : Except KeymapError Bindings :=
  if inRange : entry.2.toNat < 16 then
    if usedId : ⟨entry.2.toNat, inRange⟩ ∈ b.ids then .error (.duplicateId entry.2)
    else if usedKey : entry.1 ∈ b.keys then .error (.duplicateKey entry.1)
    else .ok (b.insert entry.1 ⟨entry.2.toNat, inRange⟩ usedKey usedId)
  else .error (.idOutOfRange entry.2)

/-- All bindings of a list, up to the first bad one. -/
def addAll (b : Bindings) : List KeyEntry → Except KeymapError Bindings
  | [] => .ok b
  | entry :: rest =>
      match b.add entry with
      | .ok more => more.addAll rest
      | .error error => .error error

/-- An entry that is accepted adds one binding. -/
theorem length_add {b more : Bindings} {entry : KeyEntry} (added : b.add entry = .ok more) :
    more.entries.length = b.entries.length + 1 := by
  unfold add at added
  split at added
  · split at added
    · contradiction
    · split at added
      · contradiction
      · cases added
        simp [insert]
  · contradiction

/-- A list of bindings adds as many entries as it has. -/
theorem length_addAll {entries : List KeyEntry} {b more : Bindings}
    (added : b.addAll entries = .ok more) :
    more.entries.length = b.entries.length + entries.length := by
  induction entries generalizing b with
  | nil => cases added; simp
  | cons entry rest ih =>
    rw [addAll] at added
    split at added
    · next next first =>
      rw [ih added, length_add first, List.length_cons]
      omega
    · contradiction

end Bindings

/-! ## Keymaps -/

/-- A bijection between the ids and sixteen physical keys. -/
structure Keymap extends Bindings where
  /-- There are sixteen bindings. -/
  length_entries : entries.length = 16

namespace Keymap

/-- The keymap that a list of entries describes. -/
def ofList (entries : List KeyEntry) : Except KeymapError Keymap :=
  if sixteen : entries.length = 16 then
    match read : Bindings.addAll {} entries with
    | .ok bindings => .ok ⟨bindings, by simp [Bindings.length_addAll read, sixteen]⟩
    | .error error => .error error
  else .error (.wrongKeyCount entries.length)

/-- The id that a physical key stands for. -/
def id? (m : Keymap) (key : Char) : Option KeyId := m.entries.lookup key

/-- The entries from which the keymap can be read. -/
def toList (m : Keymap) : List KeyEntry :=
  m.entries.map fun binding => (binding.1, UInt8.ofNat binding.2.val)

/-- The left-hand side of a keyboard, laid out like the keypad. -/
def conventional : Keymap where
  entries := [
    ('x', 0x0), ('1', 0x1), ('2', 0x2), ('3', 0x3),
    ('q', 0x4), ('w', 0x5), ('e', 0x6), ('a', 0x7),
    ('s', 0x8), ('d', 0x9), ('z', 0xa), ('c', 0xb),
    ('4', 0xc), ('r', 0xd), ('f', 0xe), ('v', 0xf)]
  keys_nodup := by decide
  ids_nodup := by decide
  length_entries := rfl

end Keymap

end Chip8Console
