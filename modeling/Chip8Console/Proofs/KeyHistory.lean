import Chip8Console.Keypad.Basic
import Chip8Console.Proofs.Keymaps

/-!
# A keypad and its history

What a keypad answers can be read off what was done to it since it was last
reset or got a keymap.  That is its *stretch*.  Within a stretch the bindings do
not change.

* A key is held if it was pressed or released in the stretch, and pressed at
  last.
* The latched key is the one that the last operation pressed, among those that
  count.  Presses and releases of bound keys count, and so does taking the
  latched key.

Operations that do not count change nothing.  These are questions, keys that are
not bound, and lists that are no keymap.

* `Keypad.Stretch`: the end of a history, with the keymap in force.
* `Keypad.reflects_after`: keypad and stretch agree after any history.
* `Keypad.answers_from_history`: the main statement.
-/

namespace Chip8Console

namespace Keypad

/-- The keypad after operations in a row. -/
def after (p : Keypad) : List Op → Keypad
  | [] => p
  | op :: rest => (p.perform op).2.after rest

theorem after_append (p : Keypad) (earlier later : List Op) :
    p.after (earlier ++ later) = (p.after earlier).after later := by
  induction earlier generalizing p with
  | nil => rfl
  | cons op rest ih => exact ih (p.perform op).2

/-! ## Stretches -/

namespace Op

/-- A press or a release of the given key. -/
def moves (key : Char) : Op → Bool
  | .press other | .release other => other == key
  | _ => false

/-- An operation that can change a keypad with these bindings. -/
def counts (m : Keymap) : Op → Bool
  | .press key | .release key => (m.id? key).isSome
  | .consume | .reset => true
  | .configure entries => (Keymap.ofList entries).isOk
  | .idOf _ | .isDown _ => false

theorem moves_keyOf_of_not_counts {m : Keymap} {op : Op} (ignored : op.counts m = false)
    (id : KeyId) : op.moves (m.keyOf id) = false := by
  have other_key : ∀ key, (m.id? key).isSome = false → (key == m.keyOf id) = false := by
    intro key unbound
    rw [beq_eq_false_iff_ne]
    rintro rfl
    rw [Keymap.id?_keyOf] at unbound
    cases unbound
  cases op with
  | press key => exact other_key key ignored
  | release key => exact other_key key ignored
  | idOf key => rfl
  | isDown byte => rfl
  | consume => rfl
  | reset => rfl
  | configure entries => rfl

end Op

/-- What was done to a keypad since it was last reset or got a keymap. -/
structure Stretch where
  /-- The keymap in force. -/
  keymap : Keymap
  ops : List Op

namespace Stretch

/-- The stretch after one operation more. -/
def add (s : Stretch) (op : Op) : Stretch :=
  match op with
  | .reset => ⟨s.keymap, []⟩
  | .configure entries =>
      match Keymap.ofList entries with
      | .ok keymap => ⟨keymap, []⟩
      | .error _ => ⟨s.keymap, s.ops ++ [op]⟩
  | _ => ⟨s.keymap, s.ops ++ [op]⟩

/-- The stretch after operations in a row. -/
def run (s : Stretch) (ops : List Op) : Stretch := ops.foldl add s

/-- The stretch at the end of a history that began with a keymap. -/
def ofHistory (m : Keymap) (history : List Op) : Stretch := run ⟨m, []⟩ history

/-- The last press or release of the key for an id. -/
def lastMove (s : Stretch) (id : KeyId) : Option Op :=
  (s.ops.filter (Op.moves (s.keymap.keyOf id))).getLast?

/-- The last operation that counts. -/
def lastCounted (s : Stretch) : Option Op := (s.ops.filter (Op.counts s.keymap)).getLast?

/-- The key for an id was moved, and pressed at last. -/
def Holds (s : Stretch) (id : KeyId) : Prop := s.lastMove id = some (.press (s.keymap.keyOf id))

/-- The last operation that counts pressed the key for an id. -/
def Offers (s : Stretch) (id : KeyId) : Prop := s.lastCounted = some (.press (s.keymap.keyOf id))

theorem run_append (s : Stretch) (earlier later : List Op) :
    s.run (earlier ++ later) = (s.run earlier).run later :=
  List.foldl_append

theorem getLast?_filter_concat (f : Op → Bool) (ops : List Op) (op : Op) :
    ((ops ++ [op]).filter f).getLast? = if f op then some op else (ops.filter f).getLast? := by
  rw [List.filter_append]
  cases kept : f op with
  | true => simp [kept]
  | false => simp [kept]

theorem lastMove_concat (m : Keymap) (ops : List Op) (op : Op) (id : KeyId) :
    lastMove ⟨m, ops ++ [op]⟩ id
      = if op.moves (m.keyOf id) then some op else lastMove ⟨m, ops⟩ id :=
  getLast?_filter_concat _ ops op

theorem lastCounted_concat (m : Keymap) (ops : List Op) (op : Op) :
    lastCounted ⟨m, ops ++ [op]⟩ = if op.counts m then some op else lastCounted ⟨m, ops⟩ :=
  getLast?_filter_concat _ ops op

theorem add_consume (s : Stretch) : s.add .consume = ⟨s.keymap, s.ops ++ [.consume]⟩ := rfl

theorem add_of_not_counts {s : Stretch} {op : Op} (ignored : op.counts s.keymap = false) :
    s.add op = ⟨s.keymap, s.ops ++ [op]⟩ := by
  cases op with
  | reset => cases ignored
  | configure entries =>
    rw [add]
    cases read : Keymap.ofList entries with
    | ok keymap =>
      rw [Op.counts, read] at ignored
      cases ignored
    | error error => rfl
  | _ => rfl

/-- A press is the last operation that counts if it was just made, or was before
and nothing has counted since. -/
theorem lastCounted_add_eq_press {s : Stretch} {op : Op} {key : Char} :
    (s.add op).lastCounted = some (.press key)
      ↔ (op = .press key ∧ op.counts s.keymap = true)
        ∨ (op.counts s.keymap = false ∧ s.lastCounted = some (.press key)) := by
  cases counted : op.counts s.keymap with
  | false =>
    rw [add_of_not_counts counted, lastCounted_concat, counted]
    simp
  | true =>
    cases op with
    | press other => simp [add, lastCounted_concat, counted]
    | release other => simp [add, lastCounted_concat, counted]
    | idOf other => cases counted
    | isDown byte => cases counted
    | consume => simp [add, lastCounted_concat, counted]
    | reset => simp [add, lastCounted]
    | configure entries =>
      rw [Op.counts] at counted
      rw [add]
      cases read : Keymap.ofList entries with
      | ok keymap => simp [lastCounted]
      | error error =>
        rw [read] at counted
        cases counted

/-- The last operation with a property, and those after it without. -/
theorem split_of_getLast?_filter {f : Op → Bool} {ops : List Op} {op : Op}
    (last : (ops.filter f).getLast? = some op) :
    ∃ earlier later, ops = earlier ++ op :: later ∧ ∀ other ∈ later, f other = false := by
  obtain ⟨before, split⟩ := List.getLast?_eq_some_iff.1 last
  obtain ⟨first, second, rfl, _, only⟩ := List.filter_eq_append_iff.1 split
  obtain ⟨skipped, later, rfl, _, _, rest⟩ := List.filter_eq_cons_iff.1 only
  refine ⟨first ++ skipped, later, by simp, ?_⟩
  intro other listed
  simpa using List.filter_eq_nil_iff.1 rest other listed

theorem holds_of_offers {s : Stretch} {id : KeyId} (offers : s.Offers id) : s.Holds id := by
  obtain ⟨earlier, later, split, ignored⟩ := split_of_getLast?_filter offers
  have unmoved : later.filter (Op.moves (s.keymap.keyOf id)) = [] := by
    rw [List.filter_eq_nil_iff]
    intro op listed
    rw [Op.moves_keyOf_of_not_counts (ignored op listed)]
    exact Bool.false_ne_true
  have pressed : Op.moves (s.keymap.keyOf id) (.press (s.keymap.keyOf id)) = true :=
    beq_self_eq_true _
  rw [Holds, lastMove, split, List.filter_append, List.filter_cons_of_pos pressed, unmoved,
    List.getLast?_concat]

/-- A press that is offered although the latched key was taken was made since,
and nothing has counted after it. -/
theorem pressed_since_consume {s : Stretch} {later : List Op} {key : Char}
    (offered : ((s.add .consume).run later).lastCounted = some (.press key)) :
    ∃ earlier quiet, later = earlier ++ .press key :: quiet
      ∧ ∀ op ∈ quiet, op.counts ((s.add .consume).run later).keymap = false := by
  induction later using List.reverseRecOn with
  | nil =>
    have taken : (s.add .consume).lastCounted = some (.press key) := offered
    rcases lastCounted_add_eq_press.1 taken with ⟨same, _⟩ | ⟨ignored, _⟩
    · cases same
    · cases ignored
  | append_singleton rest op ih =>
    rw [run_append] at offered ⊢
    rcases lastCounted_add_eq_press.1 offered with ⟨rfl, _⟩ | ⟨ignored, before⟩
    · exact ⟨rest, [], rfl, by simp⟩
    · obtain ⟨earlier, quiet, split, each⟩ := ih before
      refine ⟨earlier, quiet ++ [op], by simp [split], ?_⟩
      have kept : (((s.add .consume).run rest).run [op]).keymap
          = ((s.add .consume).run rest).keymap := by
        show (((s.add .consume).run rest).add op).keymap = _
        rw [add_of_not_counts ignored]
      intro other listed
      rw [kept]
      rcases List.mem_append.1 listed with listed | listed
      · exact each other listed
      · rw [List.mem_singleton.1 listed]
        exact ignored

end Stretch

/-! ## Keypads -/

theorem perform_of_not_counts {p : Keypad} {op : Op} (ignored : op.counts p.keymap = false) :
    (p.perform op).2 = p := by
  cases op with
  | press key =>
    cases bound : p.keymap.id? key with
    | none => simp only [perform, press, bound]
    | some id =>
      rw [Op.counts, bound] at ignored
      cases ignored
  | release key =>
    cases bound : p.keymap.id? key with
    | none => simp only [perform, release, bound]
    | some id =>
      rw [Op.counts, bound] at ignored
      cases ignored
  | idOf key => rfl
  | isDown byte => rfl
  | consume => cases ignored
  | reset => cases ignored
  | configure entries =>
    cases read : Keymap.ofList entries with
    | ok keymap =>
      rw [Op.counts, read] at ignored
      cases ignored
    | error error => simp only [perform, configure, ofList, read]

theorem after_of_not_counts {p : Keypad} {ops : List Op}
    (ignored : ∀ op ∈ ops, op.counts p.keymap = false) : p.after ops = p := by
  induction ops with
  | nil => rfl
  | cons op rest ih =>
    obtain ⟨first, others⟩ := List.forall_mem_cons.1 ignored
    rw [after, perform_of_not_counts first]
    exact ih others

theorem press_of_bound {p : Keypad} {key : Char} {id : KeyId} (bound : p.keymap.id? key = some id) :
    p.press key
      = (true, { p with held := p.held.set id.val true id.isLt, latched := some id }) := by
  rw [press, bound]

theorem release_of_bound {p : Keypad} {key : Char} {id : KeyId}
    (bound : p.keymap.id? key = some id) :
    p.release key
      = (true, { p with held := p.held.set id.val false id.isLt, latched := none }) := by
  rw [release, bound]

theorem keymap_press (p : Keypad) (key : Char) : (p.press key).2.keymap = p.keymap := by
  unfold press
  split
  · rfl
  · rfl

theorem keymap_release (p : Keypad) (key : Char) : (p.release key).2.keymap = p.keymap := by
  unfold release
  split
  · rfl
  · rfl

theorem held_set (held : Vector Bool 16) (id other : KeyId) (down : Bool) :
    (held.set id.val down id.isLt)[other] = if other = id then down else held[other] := by
  show (held.set id.val down id.isLt)[other.val] = _
  rw [Vector.getElem_set]
  simp only [Fin.ext_iff, eq_comm (a := id.val)]
  rfl

/-- A byte is down if it is the id of a held key. -/
theorem isDown_eq_true {p : Keypad} {byte : UInt8} :
    p.isDown byte = true ↔ ∃ id : KeyId, byte.toNat = id.val ∧ p.held[id] = true := by
  unfold isDown
  by_cases inRange : byte.toNat < 16
  · rw [Vector.getElem?_eq_getElem inRange, Option.getD_some]
    constructor
    · intro down
      exact ⟨⟨byte.toNat, inRange⟩, rfl, down⟩
    · rintro ⟨id, same, down⟩
      have index : id = ⟨byte.toNat, inRange⟩ := Fin.ext same.symm
      rw [index] at down
      exact down
  · rw [Vector.getElem?_eq_none (by omega), Option.getD_none]
    constructor
    · intro down
      cases down
    · rintro ⟨id, same, _⟩
      omega

/-- The number of an id is down exactly if the id is held. -/
theorem isDown_number {p : Keypad} {id : KeyId} :
    p.isDown (UInt8.ofNat id.val) = true ↔ p.held.get id = true := by
  rw [isDown_eq_true, toNat_number]
  constructor
  · rintro ⟨other, same, down⟩
    rwa [Fin.ext same]
  · exact fun down => ⟨id, rfl, down⟩

/-- The keypad agrees with the stretch at the end of its history. -/
structure Reflects (s : Stretch) (p : Keypad) : Prop where
  keymap : p.keymap = s.keymap
  held : ∀ id : KeyId, p.held[id] = true ↔ s.Holds id
  latched : ∀ id, p.latched = some id ↔ s.Offers id

namespace Reflects

theorem fresh (m : Keymap) : Reflects ⟨m, []⟩ { keymap := m } where
  keymap := rfl
  held := by
    intro id
    simp [Stretch.Holds, Stretch.lastMove]
  latched := by
    intro id
    simp [Stretch.Offers, Stretch.lastCounted]

variable {s : Stretch} {p : Keypad}

theorem of_not_counts (h : Reflects s p) {op : Op} (ignored : op.counts s.keymap = false) :
    Reflects (s.add op) (p.perform op).2 := by
  have same : op.counts p.keymap = false := by rwa [h.keymap]
  rw [perform_of_not_counts same, Stretch.add_of_not_counts ignored]
  refine ⟨h.keymap, ?_, ?_⟩
  · intro id
    rw [h.held, Stretch.Holds, Stretch.Holds, Stretch.lastMove_concat,
      Op.moves_keyOf_of_not_counts ignored]
    rfl
  · intro id
    rw [h.latched, Stretch.Offers, Stretch.Offers, Stretch.lastCounted_concat, ignored]
    rfl

theorem bound (h : Reflects s p) (id : KeyId) : p.keymap.id? (s.keymap.keyOf id) = some id := by
  rw [h.keymap, Keymap.id?_keyOf]

/-- The key for an id goes down or up. -/
theorem moved (h : Reflects s p) {op : Op} {id : KeyId} {down : Bool} {latched : Option KeyId}
    (moves : ∀ key, op.moves key = (s.keymap.keyOf id == key))
    (counted : op.counts s.keymap = true)
    (pressed : down = true ↔ op = .press (s.keymap.keyOf id))
    (latch : ∀ other, latched = some other ↔ op = .press (s.keymap.keyOf other)) :
    Reflects ⟨s.keymap, s.ops ++ [op]⟩
      { p with held := p.held.set id.val down id.isLt, latched } where
  keymap := h.keymap
  held := by
    intro other
    rw [Stretch.Holds, Stretch.lastMove_concat, moves]
    show (p.held.set id.val down id.isLt)[other] = true ↔ _
    rw [held_set]
    by_cases same : other = id
    · subst same
      rw [if_pos rfl, if_pos (beq_self_eq_true _), Option.some.injEq, ← pressed]
    · -- no two ids share a key, so this is no move of the other
      have other_key : (s.keymap.keyOf id == s.keymap.keyOf other) = false := by
        rw [beq_eq_false_iff_ne, Ne, Keymap.keyOf_inj]
        exact Ne.symm same
      rw [if_neg same, other_key]
      exact h.held other
  latched := by
    intro other
    rw [Stretch.Offers, Stretch.lastCounted_concat, if_pos counted, Option.some.injEq]
    exact latch other

/-- Keypad and stretch go on together. -/
theorem perform (h : Reflects s p) (op : Op) : Reflects (s.add op) (p.perform op).2 := by
  cases counted : op.counts s.keymap with
  | false => exact h.of_not_counts counted
  | true =>
    cases op with
    | press key =>
      obtain ⟨id, bound⟩ := Option.isSome_iff_exists.1 counted
      cases Keymap.id?_eq_some_iff.1 bound
      rw [Keypad.perform, press_of_bound (h.bound id)]
      refine h.moved (fun _ => rfl) counted (iff_of_true rfl rfl) ?_
      intro other
      simp [Keymap.keyOf_inj]
    | release key =>
      obtain ⟨id, bound⟩ := Option.isSome_iff_exists.1 counted
      cases Keymap.id?_eq_some_iff.1 bound
      rw [Keypad.perform, release_of_bound (h.bound id)]
      exact h.moved (fun _ => rfl) counted (by simp) (by simp)
    | idOf key => cases counted
    | isDown byte => cases counted
    | consume =>
      refine ⟨h.keymap, ?_, ?_⟩
      · intro id
        rw [Stretch.Holds, Stretch.add_consume, Stretch.lastMove_concat]
        exact h.held id
      · intro id
        rw [Stretch.Offers, Stretch.add_consume, Stretch.lastCounted_concat]
        simp [Keypad.perform, consume, counted]
    | reset =>
      rw [Keypad.perform, reset, h.keymap]
      exact fresh s.keymap
    | configure entries =>
      cases read : Keymap.ofList entries with
      | ok keymap =>
        simp only [Keypad.perform, configure, ofList, read, Stretch.add]
        exact fresh keymap
      | error error =>
        rw [Op.counts, read] at counted
        cases counted

theorem after (h : Reflects s p) (ops : List Op) : Reflects (s.run ops) (p.after ops) := by
  induction ops generalizing s p with
  | nil => exact h
  | cons op rest ih => exact ih (h.perform op)

end Reflects

/-- In a new keypad nothing is held or latched. -/
theorem eq_of_ofList {entries : List KeyEntry} {fresh : Keypad}
    (built : ofList entries = .ok fresh) : fresh = { keymap := fresh.keymap } := by
  unfold ofList at built
  cases read : Keymap.ofList entries with
  | error error =>
    rw [read] at built
    cases built
  | ok keymap =>
    rw [read] at built
    cases built
    rfl

/-- Every keymap has its new keypad. -/
theorem ofList_toList (m : Keymap) : ofList m.toList = .ok { keymap := m } := by
  rw [ofList, Keymap.ofList_toList]

/-- Keypad and stretch agree after any history of a keypad that is new. -/
theorem reflects_after {entries : List KeyEntry} {fresh : Keypad}
    (built : ofList entries = .ok fresh) (history : List Op) :
    Reflects (Stretch.ofHistory fresh.keymap history) (fresh.after history) := by
  rw [eq_of_ofList built]
  exact (Reflects.fresh fresh.keymap).after history

/-! ## The latched key -/

theorem keyCode_eq_ofNat {latched : Option KeyId} {id : KeyId} :
    keyCode latched = UInt8.ofNat id.val ↔ latched = some id := by
  cases latched with
  | none =>
    revert id
    decide
  | some other =>
    revert other id
    decide

/-- **A keypad answers from its history.**  Take a new keypad after any history,
and the stretch at the end of it.  A byte is down exactly if it is an id whose
key was moved in the stretch, and pressed at last.  The latched key is handed
out as an id exactly if the last operation that counts pressed the key for it,
and as `0x10` if no id is on offer.  What does not count changes nothing.  A
latched key is held.  Whenever a key is handed out after the latched key was
taken, it was pressed since then, and nothing has counted after that.  And if a
bound key is pressed and nothing counts after it, it is handed out next. -/
theorem answers_from_history {entries : List KeyEntry} {fresh : Keypad}
    (built : ofList entries = .ok fresh) {history : List Op} {s : Stretch} {p : Keypad}
    (ended : s = Stretch.ofHistory fresh.keymap history) (used : p = fresh.after history) :
    (∀ byte, p.isDown byte = true ↔ ∃ id : KeyId, byte.toNat = id.val ∧ s.Holds id)
      ∧ (∀ id : KeyId, keyCode p.consume.1 = UInt8.ofNat id.val ↔ s.Offers id)
      ∧ ((∀ id, ¬ s.Offers id) → keyCode p.consume.1 = 0x10)
      ∧ (∀ op, op.counts s.keymap = false → (p.perform op).2 = p)
      ∧ (∀ id : KeyId, p.latched = some id → p.isDown (UInt8.ofNat id.val) = true)
      ∧ (∀ middle id, ((p.after (.consume :: middle)).consume.1 = some id) →
        ∃ earlier quiet, middle
            = earlier ++ .press ((s.run (.consume :: middle)).keymap.keyOf id) :: quiet
          ∧ ∀ op ∈ quiet, op.counts (s.run (.consume :: middle)).keymap = false)
      ∧ (∀ key id quiet, s.keymap.id? key = some id →
        (∀ op ∈ quiet, op.counts s.keymap = false) →
        (p.after (.press key :: quiet)).consume.1 = some id) := by
  have reflects : Reflects s p := by
    rw [ended, used]
    exact reflects_after built history
  refine ⟨?_, ?_, ?_, ?_, ?_, ?_, ?_⟩
  · intro byte
    rw [isDown_eq_true]
    simp only [reflects.held]
  · intro id
    rw [keyCode_eq_ofNat]
    exact reflects.latched id
  · intro nothing
    have empty : p.latched = none := by
      cases latched : p.latched with
      | none => rfl
      | some id => exact absurd ((reflects.latched id).1 latched) (nothing id)
    rw [consume, empty]
    rfl
  · intro op ignored
    rw [← reflects.keymap] at ignored
    exact perform_of_not_counts ignored
  · intro id latched
    have holds := Stretch.holds_of_offers ((reflects.latched id).1 latched)
    have number : (UInt8.ofNat id.val).toNat = id.val := by
      rw [UInt8.toNat_ofNat']
      omega
    exact isDown_eq_true.2 ⟨id, number, (reflects.held id).2 holds⟩
  · intro middle id handed
    exact Stretch.pressed_since_consume (((reflects.after (.consume :: middle)).latched id).1 handed)
  · intro key id quiet bound ignored
    rw [← reflects.keymap] at bound ignored
    have undisturbed : (p.press key).2.after quiet = (p.press key).2 := by
      rw [press_of_bound bound]
      exact after_of_not_counts ignored
    rw [after, perform, undisturbed, press_of_bound bound, consume]

/-- Keys that are not bound and lists that are no keymap do not come between a
press and its reader. -/
theorem answers_from_history_undisturbed :
    (({ keymap := Keymap.conventional } : Keypad).after
        [.press 'q', .consume, .press 'w', .press 'p', .configure []]).consume.1 = some 5 := by
  have built : ofList Keymap.conventional.toList = .ok { keymap := Keymap.conventional } := by
    rw [ofList, Keymap.ofList_toList]
  have answers := answers_from_history built
    (s := .ofHistory Keymap.conventional [.press 'q', .consume]) rfl rfl
  exact answers.2.2.2.2.2.2 'w' 5 [.press 'p', .configure []] (by decide) (by decide)

end Keypad

end Chip8Console
