import Chip8Console.Proofs.BindingLists
import Chip8Console.Proofs.KeyTracking

/-!
# Bindings that a terminal can reach

A keymap binds characters as they are, capitals as well.  A terminal's capitals count as
small letters before anyone looks for their binding.  So a strike of a bound character
presses its key, unless the character is one of the letters from `A` to `Z`.  The key of
such a letter is struck by nothing, and an id that is bound to one never goes down again
once it is up.  All other characters are their own keys, letters of other alphabets among
them.

* `KeyEvent.strikes_iff_not_isUpper`: which characters are their own keys.
* `Tracking.not_held_after_of_capital`: the id of a capital stays up.
* `Tracking.binding_answers_iff`: which bindings are of use.
* `Tracking.capital_binding_missed`: not all of them are.
-/

namespace Chip8Console

/-- No key that is struck is a capital. -/
theorem KeyEvent.Strikes.not_isUpper {event : KeyEvent} {key : Char}
    (strikes : event.Strikes key) : ¬ key.isUpper = true := by
  obtain ⟨c, _, rfl, _⟩ := strikes
  intro still
  by_cases capital : c.val ≥ 'A'.val ∧ c.val ≤ 'Z'.val
  · have folded : c.toLower.val = c.val + 32 := congrArg Char.val (dif_pos capital)
    have below : c.val + 32 ≤ 90 := folded ▸ (of_decide_eq_true still).2
    have above : 65 ≤ c.val := capital.1
    have most : c.val ≤ 90 := capital.2
    -- no letter is moved past the end, so the sum does not wrap
    rw [UInt32.le_iff_toNat_le] at above most below
    rw [UInt32.toNat_add] at below
    simp only [UInt32.reduceToNat] at above most below
    omega
  · have same : c.toLower = c := dif_neg capital
    rw [same] at still
    exact capital (of_decide_eq_true still)

/-- A character without the control key strikes the key of its own name exactly if it is
no capital. -/
theorem KeyEvent.strikes_iff_not_isUpper {event : KeyEvent} {key : Char}
    (code : event.code = .char key) (plain : event.control = false) :
    event.Strikes key ↔ ¬ key.isUpper = true := by
  constructor
  · exact fun strikes => strikes.not_isUpper
  · intro small
    have same : key.toLower = key := dif_neg (mt decide_eq_true small)
    refine ⟨key, code, same, ?_⟩
    rintro ⟨_, control⟩
    rw [plain] at control
    cases control

namespace Keypad

/-- A keypad that has taken over a list is new. -/
theorem eq_of_configure {p configured : Keypad} {entries : List KeyEntry}
    (accepted : p.configure entries = (.ok (), configured)) :
    ∃ m, Keymap.ofList entries = .ok m ∧ configured = { keymap := m } := by
  cases read : Keymap.ofList entries with
  | ok m =>
    rw [configure_of_ok read] at accepted
    cases accepted
    exact ⟨m, rfl, rfl⟩
  | error error =>
    rw [configure_of_error read] at accepted
    cases accepted

/-- A press leaves the other numbers as they were. -/
theorem isDown_press_of_ne {p : Keypad} {key : Char} {id : KeyId} {other : UInt8}
    (bound : p.keymap.id? key = some id) (different : other ≠ UInt8.ofNat id.val) :
    (p.press key).2.isDown other = p.isDown other := by
  rw [Bool.eq_iff_iff, isDown_eq_true, isDown_eq_true]
  refine exists_congr fun held => and_congr_right fun same => ?_
  refine (held_press bound).trans (or_iff_right ?_)
  rintro rfl
  refine different (UInt8.toNat_inj.1 ?_)
  rw [same, toNat_number]

end Keypad

namespace Tracking

theorem keymap_after (s : Tracking) (history : List Event) :
    (s.after history).keypad.keymap = s.keypad.keymap := by
  induction history generalizing s with
  | nil => rfl
  | cons e rest ih => exact (ih (s.perform e)).trans (s.keymap_perform e)

/-- The id of a capital stays up, whatever is struck. -/
theorem not_held_after_of_capital {s : Tracking} {id : KeyId}
    (capital : (s.keypad.keymap.keyOf id).isUpper = true)
    (up : ¬ s.keypad.held.get id = true) (history : List Event) :
    ¬ (s.after history).keypad.held.get id = true := by
  induction history generalizing s with
  | nil => exact up
  | cons e rest ih =>
    refine ih (s := s.perform e) ?_ ?_
    · rwa [keymap_perform]
    · rw [held_perform]
      rintro (⟨strikes, _⟩ | ⟨held, _⟩)
      · obtain ⟨event, now, rfl, struck⟩ := Event.strikes_iff.1 strikes
        exact struck.not_isUpper capital
      · exact up held

/-- **Which bindings are of use in a terminal.**  A keypad has taken over a list of
bindings.  Take one of them, and a time when its key is not in the table and its number
is not down, after any history.  Its character arrives, without the control key.  Then the
number is down and is handed out next and no other number changes, exactly if the
character is none of the letters from `A` to `Z`.  The number of such a letter is never
down from then on. -/
theorem binding_answers_iff {p configured : Keypad} {entries : List KeyEntry} {key : Char}
    {byte : UInt8} {t : KeyTracker} {history : List Event} {s : Tracking} {event : KeyEvent}
    (accepted : p.configure entries = (.ok (), configured)) (listed : (key, byte) ∈ entries)
    (ended : s = after ⟨t, configured⟩ history) (untracked : ¬ s.Tracks key)
    (up : s.keypad.isDown byte = false) (code : event.code = .char key)
    (plain : event.control = false) (now : Nat) :
    ((s.perform (.key event now)).keypad.isDown byte = true
        ∧ keyCode (s.perform (.key event now)).keypad.consume.1 = byte
        ∧ (∀ other, other ≠ byte →
          (s.perform (.key event now)).keypad.isDown other = s.keypad.isDown other)
      ↔ ¬ key.isUpper = true)
      ∧ (key.isUpper = true → ∀ later, (s.after later).keypad.isDown byte = false) := by
  obtain ⟨m, read, rfl⟩ := Keypad.eq_of_configure accepted
  obtain ⟨id, bound, rfl⟩ := Option.map_eq_some_iff.1 ((Keymap.number_eq_some_iff read).2 listed)
  have keymap : s.keypad.keymap = m := by rw [ended, keymap_after]
  rw [← keymap] at bound
  have own : key = s.keypad.keymap.keyOf id := Keymap.id?_eq_some_iff.1 bound
  have stays : key.isUpper = true →
      ∀ later, (s.after later).keypad.isDown (UInt8.ofNat id.val) = false := by
    intro capital later
    rw [own] at capital
    rw [← Bool.not_eq_true, Keypad.isDown_number] at up ⊢
    exact not_held_after_of_capital capital up later
  refine ⟨⟨?_, ?_⟩, stays⟩
  · rintro ⟨down, _⟩ capital
    exact Bool.false_ne_true ((stays capital [.key event now]).symm.trans down)
  · intro small
    have strikes := (KeyEvent.strikes_iff_not_isUpper code plain).2 small
    have presses : s.Presses (.key event now) id := by
      rw [Presses, ← own]
      exact ⟨strikes, untracked⟩
    have pressed : (s.perform (.key event now)).keypad = (s.keypad.press key).2 := by
      rcases s.keypad_key event now with ⟨other, others, same⟩ | ⟨unpressed, _⟩
      · rw [same, others.eq presses, own]
      · exact absurd presses (unpressed id)
    rw [pressed]
    refine ⟨?_, ?_, ?_⟩
    · rw [Keypad.isDown_number, Keypad.held_press bound]
      exact .inl rfl
    · rw [Keypad.keyCode_eq_ofNat, Keypad.press_of_bound bound]
      rfl
    · exact fun other different => Keypad.isDown_press_of_ne bound different

/-- The usual keymap, but for a capital. -/
def shouting : Keymap where
  entries := Keymap.conventional.entries.modify 5 fun binding => ('W', binding.2)
  keys_nodup := by decide
  ids_nodup := by decide
  length_entries := rfl

theorem configure_shouting (p : Keypad) :
    p.configure shouting.toList = (.ok (), { keymap := shouting }) :=
  Keypad.configure_of_ok (Keymap.ofList_toList shouting)

/-- A tracker whose keypad has that keymap, after a key was struck. -/
def shouted : Tracking :=
  after ⟨.empty 100, { keymap := shouting }⟩ [.key { code := .char 'e' } 0]

/-- Another key answers when it is struck.  The key that is bound by its capital will
not. -/
theorem binding_answers_iff_shouted :
    keyCode (shouted.perform (.key { code := .char 'q' } 10)).keypad.consume.1 = 4
      ∧ (shouted.perform (.key { code := .char 'q' } 10)).keypad.isDown 6 = true
      ∧ ∀ later, (shouted.after later).keypad.isDown 5 = false := by
  have accepted := configure_shouting shouted.keypad
  have untracked : ∀ key, shouted.seenAt? key = none → ¬ shouted.Tracks key := by
    rintro key absent ⟨time, seen⟩
    rw [absent] at seen
    cases seen
  have listedQ : ('q', (4 : UInt8)) ∈ shouting.toList := by decide
  have listedW : ('W', (5 : UInt8)) ∈ shouting.toList := by decide
  have codeQ : ({ code := .char 'q' } : KeyEvent).code = .char 'q' := rfl
  have codeW : ({ code := .char 'W', shift := true } : KeyEvent).code = .char 'W' := rfl
  obtain ⟨answers, _⟩ := binding_answers_iff accepted listedQ (Eq.refl shouted)
    (untracked 'q' (by decide)) (by decide) codeQ rfl 10
  obtain ⟨_, dead⟩ := binding_answers_iff accepted listedW (Eq.refl shouted)
    (untracked 'W' (by decide)) (by decide) codeW rfl 10
  obtain ⟨_, handed, others⟩ := answers.2 (by decide)
  exact ⟨handed, (others 6 (by decide)).trans (by decide), dead (by decide)⟩

/-- It is not so that every binding of a list that is taken over answers in a terminal. -/
theorem capital_binding_missed :
    ¬ ∀ (p configured : Keypad) (entries : List KeyEntry) (key : Char) (byte : UInt8) (hold : Nat)
        (history : List Event) (s : Tracking) (event : KeyEvent) (now : Nat),
      p.configure entries = (.ok (), configured) → (key, byte) ∈ entries →
      s = after ⟨.empty hold, configured⟩ history → ¬ s.Tracks key →
      s.keypad.isDown byte = false → event.code = .char key → event.control = false →
      (s.perform (.key event now)).keypad.isDown byte = true
        ∧ keyCode (s.perform (.key event now)).keypad.consume.1 = byte
        ∧ ∀ other, other ≠ byte →
          (s.perform (.key event now)).keypad.isDown other = s.keypad.isDown other := by
  intro claim
  have untracked : ¬ Tracks ⟨.empty 100, { keymap := shouting }⟩ 'W' := by
    rintro ⟨time, seen⟩
    cases seen
  have down := (claim shouted.keypad _ _ 'W' 5 100 [] _ { code := .char 'W', shift := true } 0
    (configure_shouting _) (by decide) rfl untracked (by decide) rfl rfl).1
  exact absurd down (by decide)

end Tracking

end Chip8Console
