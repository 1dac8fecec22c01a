import Chip8Console.Proofs.KeyHistory
import Chip8Console.Terminal.KeyTracker
import Mathlib.Data.List.Perm.Subperm

/-!
# A key tracker and its history

A tracker and the keypad behind it are changed together: by key events, by the
release of what has expired, and by a program that takes the latched key.  After
any such history, from an empty table and a new keypad, the two agree.

* A key is in the table if it is bound and was struck, and no release since then
  came the hold time after the last strike or later.
* The time in the table is that of the last strike.
* A key is held exactly if it is in the table.

So a strike presses a key only if the key is bound and not in the table.  Only
such a strike fills the latch.  Whatever is released empties it.

* `KeyEvent.Strikes`: which key a key event is for.
* `Tracking`: a tracker and its keypad.
* `Tracking.Struck`: all that a key event can do.
* `Tracking.tracks_perform`, `Tracking.held_perform`: one event, whatever the table has.
* `Tracking.HeldSince`: what a history says about a key.
* `Tracking.InStep`: tracker and keypad agree.
* `Tracking.keys_tracked`: the main statement.
-/

namespace Chip8Console

/-! ## Strikes -/

/-- The event gives a character, and a key is that character as a small letter.
A small `c` with the control key is for no key. -/
def KeyEvent.Strikes (event : KeyEvent) (key : Char) : Prop :=
  ∃ c, event.code = .char c ∧ c.toLower = key ∧ ¬ (c = 'c' ∧ event.control = true)

theorem KeyEvent.meaning_eq_typed {event : KeyEvent} {key : Char} :
    event.meaning = .typed key ↔ event.Strikes key := by
  unfold meaning Strikes
  cases event.code with
  | char c =>
    by_cases quits : c = 'c' ∧ event.control = true
    · simp [quits]
    · have other : ¬ (c = 'c' && event.control) = true := by simpa using quits
      simp only [if_neg other, KeyMeaning.typed.injEq, KeyCode.char.injEq]
      constructor
      · rintro rfl
        exact ⟨c, rfl, rfl, quits⟩
      · rintro ⟨_, rfl, same, _⟩
        exact same
  | _ => simp

instance KeyEvent.decidableStrikes (event : KeyEvent) (key : Char) :
    Decidable (event.Strikes key) :=
  decidable_of_iff _ meaning_eq_typed

/-- An event is for one key at most. -/
theorem KeyEvent.Strikes.eq {event : KeyEvent} {key other : Char} (h₁ : event.Strikes key)
    (h₂ : event.Strikes other) : key = other := by
  rw [← meaning_eq_typed] at h₁ h₂
  rw [h₁] at h₂
  cases h₂
  rfl

/-! ## The table -/

namespace KeyTracker

/-- The tracker with an empty table. -/
def empty (hold : Nat) : KeyTracker := { hold, seen := [], keys_nodup := List.nodup_nil }

variable (t : KeyTracker)

theorem seenAt?_eq_some {t : KeyTracker} {key : Char} {time : Nat} :
    t.seenAt? key = some time ↔ (key, time) ∈ t.seen :=
  lookup_eq_some_iff_mem t.keys_nodup

theorem seenAt?_mark (key other : Char) (now : Nat) :
    (t.mark key now).seenAt? other = if other = key then some now else t.seenAt? other := by
  refine Option.ext fun time => ?_
  rw [seenAt?_eq_some]
  by_cases same : other = key
  · simp [mark, same, eq_comm]
  · simp [mark, same, seenAt?_eq_some]

theorem seenAt?_dropExpired {t : KeyTracker} {key : Char} {now time : Nat} :
    (t.dropExpired now).seenAt? key = some time
      ↔ t.seenAt? key = some time ∧ now - time < t.hold := by
  rw [seenAt?_eq_some, seenAt?_eq_some, dropExpired, List.mem_filter]
  simp [hasExpired]

theorem mem_expiredKeys {t : KeyTracker} {key : Char} {now : Nat} :
    key ∈ t.expiredKeys now ↔ ∃ time, t.seenAt? key = some time ∧ t.hold ≤ now - time := by
  simp [expiredKeys, hasExpired, seenAt?_eq_some]

end KeyTracker

/-! ## Releases in a row -/

namespace Keypad

theorem held_press {p : Keypad} {key : Char} {id other : KeyId}
    (bound : p.keymap.id? key = some id) :
    (p.press key).2.held.get other = true ↔ other = id ∨ p.held.get other = true := by
  rw [press_of_bound bound]
  show (p.held.set id.val true id.isLt)[other] = true ↔ _ ∨ p.held[other] = true
  rw [held_set]
  split
  · next same => simp [same]
  · next different => simp [different]

theorem release_of_unbound {p : Keypad} {key : Char} (unbound : p.keymap.id? key = none) :
    p.release key = (false, p) := by
  rw [release, unbound]

/-- A release lets go of the key's own id, if it has one. -/
theorem held_release (p : Keypad) (key : Char) (id : KeyId) :
    (p.release key).2.held.get id = true ↔ p.keymap.keyOf id ≠ key ∧ p.held.get id = true := by
  cases bound : p.keymap.id? key with
  | none =>
    rw [release_of_unbound bound]
    refine (and_iff_right ?_).symm
    rintro rfl
    rw [Keymap.id?_keyOf] at bound
    cases bound
  | some released =>
    rw [release_of_bound bound, Keymap.id?_eq_some_iff.1 bound, Ne, Keymap.keyOf_inj]
    show (p.held.set released.val false released.isLt)[id] = true ↔ _ ∧ p.held[id] = true
    rw [held_set]
    split
    · next same => simp [same]
    · next different => simp [different]

/-- A release of a bound key empties the latch. -/
theorem latched_release (p : Keypad) (key : Char) (id : KeyId) :
    (p.release key).2.latched = some id ↔ p.latched = some id ∧ p.keymap.id? key = none := by
  cases bound : p.keymap.id? key with
  | none =>
    rw [release_of_unbound bound]
    exact (and_iff_left rfl).symm
  | some released =>
    rw [release_of_bound bound]
    exact iff_of_false nofun fun kept => nomatch kept.2

/-- The keypad after the given keys went up. -/
def releaseAll (p : Keypad) (keys : List Char) : Keypad :=
  keys.foldl (fun p key => (p.release key).2) p

theorem keymap_releaseAll (p : Keypad) (keys : List Char) :
    (p.releaseAll keys).keymap = p.keymap := by
  induction keys generalizing p with
  | nil => rfl
  | cons key rest ih => exact (ih _).trans (p.keymap_release key)

/-- One release of a bound key is enough to empty the latch. -/
theorem latched_releaseAll (p : Keypad) (keys : List Char) (id : KeyId) :
    (p.releaseAll keys).latched = some id
      ↔ p.latched = some id ∧ ∀ key ∈ keys, p.keymap.id? key = none := by
  induction keys generalizing p with
  | nil => simp [releaseAll]
  | cons key rest ih =>
    show ((p.release key).2.releaseAll rest).latched = some id ↔ _
    rw [ih, keymap_release, latched_release, List.forall_mem_cons, and_assoc]

theorem held_releaseAll (p : Keypad) (keys : List Char) (id : KeyId) :
    (p.releaseAll keys).held.get id = true ↔ p.keymap.keyOf id ∉ keys ∧ p.held.get id = true := by
  induction keys generalizing p with
  | nil => simp [releaseAll]
  | cons key rest ih =>
    show ((p.release key).2.releaseAll rest).held.get id = true ↔ _
    rw [ih, keymap_release, held_release, List.mem_cons]
    tauto

end Keypad

/-! ## Tracking -/

/-- A tracker and the keypad behind it. -/
structure Tracking where
  tracker : KeyTracker
  keypad : Keypad

namespace Tracking

/-- Something done to a tracker and its keypad. -/
inductive Event where
  /-- A key event arrives. -/
  | key (event : KeyEvent) (now : Nat)
  /-- What has expired is released. -/
  | expire (now : Nat)
  /-- A program takes the latched key. -/
  | consume

def perform (s : Tracking) : Event → Tracking
  | .key event now =>
      let (_, tracker, keypad) := s.tracker.handle s.keypad event now
      ⟨tracker, keypad⟩
  | .expire now =>
      let (tracker, keypad) := s.tracker.expire s.keypad now
      ⟨tracker, keypad⟩
  | .consume => { s with keypad := s.keypad.consume.2 }

/-- The tracker and its keypad after a history. -/
def after (s : Tracking) (history : List Event) : Tracking := history.foldl perform s

/-- When a key in the table was last struck. -/
def seenAt? (s : Tracking) (key : Char) : Option Nat := s.tracker.seenAt? key

/-- All that a key event can do. -/
inductive Struck (s : Tracking) (event : KeyEvent) (now : Nat) : Tracking → Prop
  /-- A key in the table is only seen again. -/
  | again {key : Char} {time : Nat} (strikes : event.Strikes key)
      (tracked : s.seenAt? key = some time) :
      Struck s event now ⟨s.tracker.mark key now, s.keypad⟩
  /-- A bound key that is not in the table goes down. -/
  | pressed {key : Char} {id : KeyId} (strikes : event.Strikes key)
      (untracked : s.seenAt? key = none) (bound : s.keypad.keymap.id? key = some id) :
      Struck s event now ⟨s.tracker.mark key now, (s.keypad.press key).2⟩
  /-- Anything else does nothing. -/
  | ignored (unknown : ∀ key, event.Strikes key →
      s.seenAt? key = none ∧ s.keypad.keymap.id? key = none) : Struck s event now s

theorem struck (s : Tracking) (event : KeyEvent) (now : Nat) :
    s.Struck event now (s.perform (.key event now)) := by
  have unstruck : (∀ key, event.meaning ≠ .typed key) → ∀ key, event.Strikes key →
      s.seenAt? key = none ∧ s.keypad.keymap.id? key = none := by
    intro other key strikes
    exact absurd (KeyEvent.meaning_eq_typed.2 strikes) (other key)
  cases meaning : event.meaning with
  | quit =>
    simp only [perform, KeyTracker.handle, meaning]
    exact .ignored (unstruck (by simp [meaning]))
  | nothing =>
    simp only [perform, KeyTracker.handle, meaning]
    exact .ignored (unstruck (by simp [meaning]))
  | typed key =>
    have strikes := KeyEvent.meaning_eq_typed.1 meaning
    simp only [perform, KeyTracker.handle, meaning]
    -- whether it is seen again or pressed is up to the table, not to the keypad
    cases seen : s.tracker.seenAt? key with
    | some time => exact .again strikes seen
    | none =>
      cases bound : s.keypad.keymap.id? key with
      | some id =>
        have step : s.Struck event now ⟨s.tracker.mark key now, (s.keypad.press key).2⟩ :=
          .pressed strikes seen bound
        simp only [Keypad.press_of_bound bound] at step ⊢
        exact step
      | none =>
        simp only [Keypad.press, bound]
        refine .ignored fun other struck => ?_
        rw [← strikes.eq struck]
        exact ⟨seen, bound⟩

theorem perform_expire (s : Tracking) (now : Nat) :
    s.perform (.expire now)
      = ⟨s.tracker.dropExpired now, s.keypad.releaseAll (s.tracker.expiredKeys now)⟩ := rfl

/-! ## What a history says about a key -/

/-- A key event for the given key. -/
def Event.Strikes (key : Char) : Event → Prop
  | .key event _ => event.Strikes key
  | _ => False

theorem Event.strikes_iff {key : Char} {e : Event} :
    e.Strikes key ↔ ∃ event now, e = .key event now ∧ event.Strikes key := by
  cases e with
  | key event now => simp [Strikes]
  | expire now => simp [Strikes]
  | consume => simp [Strikes]

/-- A release that comes the hold time after the given time, or later. -/
def Event.Expires (hold time : Nat) : Event → Prop
  | .expire now => hold ≤ now - time
  | _ => False

instance Event.decidableStrikes (key : Char) : (e : Event) → Decidable (e.Strikes key)
  | .key event _ => inferInstanceAs (Decidable (event.Strikes key))
  | .expire _ | .consume => .isFalse not_false

instance Event.decidableExpires (hold time : Nat) : (e : Event) → Decidable (e.Expires hold time)
  | .expire now => inferInstanceAs (Decidable (hold ≤ now - time))
  | .key _ _ | .consume => .isFalse not_false

/-- The key was last struck at the given time, and nothing expired it since. -/
def HeldSince (hold : Nat) (history : List Event) (key : Char) (time : Nat) : Prop :=
  ∃ earlier event later, history = earlier ++ .key event time :: later ∧ event.Strikes key
    ∧ ∀ e ∈ later, ¬ e.Strikes key ∧ ¬ e.Expires hold time

theorem heldSince_nil {hold : Nat} {key : Char} {time : Nat} : ¬ HeldSince hold [] key time := by
  rintro ⟨earlier, event, later, split, _⟩
  exact List.append_ne_nil_of_right_ne_nil earlier (List.cons_ne_nil _ later) split.symm

theorem heldSince_concat {hold : Nat} {history : List Event} {e : Event} {key : Char}
    {time : Nat} :
    HeldSince hold (history ++ [e]) key time
      ↔ (∃ event, e = .key event time ∧ event.Strikes key)
        ∨ (HeldSince hold history key time ∧ ¬ e.Strikes key ∧ ¬ e.Expires hold time) := by
  constructor
  · rintro ⟨earlier, event, later, split, strikes, quiet⟩
    rcases later.eq_nil_or_concat with rfl | ⟨middle, last, rfl⟩
    · obtain ⟨_, same⟩ := List.append_inj' split rfl
      injection same with same
      exact .inl ⟨event, same, strikes⟩
    · rw [List.concat_eq_append, ← List.cons_append, ← List.append_assoc] at split
      obtain ⟨before, same⟩ := List.append_inj' split rfl
      injection same with same
      subst same
      rw [List.concat_eq_append] at quiet
      refine .inr ⟨⟨earlier, event, middle, before, strikes, ?_⟩, ?_⟩
      · exact fun other listed => quiet other (List.mem_append_left _ listed)
      · exact quiet e (List.mem_append_right _ List.mem_cons_self)
  · rintro (⟨event, rfl, strikes⟩ | ⟨⟨earlier, event, later, rfl, strikes, quiet⟩, last⟩)
    · exact ⟨history, event, [], rfl, strikes, by simp⟩
    · refine ⟨earlier, event, later ++ [e], by simp, strikes, ?_⟩
      intro other listed
      rcases List.mem_append.1 listed with listed | listed
      · exact quiet other listed
      · rw [List.mem_singleton.1 listed]
        exact last

theorem heldSince_concat_of_quiet {hold : Nat} {history : List Event} {e : Event} {key : Char}
    {time : Nat} (unstruck : ¬ e.Strikes key) (unexpired : ¬ e.Expires hold time) :
    HeldSince hold (history ++ [e]) key time ↔ HeldSince hold history key time := by
  rw [heldSince_concat]
  constructor
  · rintro (⟨event, rfl, strikes⟩ | ⟨held, _⟩)
    · exact absurd strikes unstruck
    · exact held
  · exact fun held => .inr ⟨held, unstruck, unexpired⟩

/-! ## Tracker and keypad agree -/

/-- The key is in the table. -/
def Tracks (s : Tracking) (key : Char) : Prop := ∃ time, s.seenAt? key = some time

/-- The event strikes the key for an id, which is not in the table. -/
def Presses (s : Tracking) (e : Event) (id : KeyId) : Prop :=
  e.Strikes (s.keypad.keymap.keyOf id) ∧ ¬ s.Tracks (s.keypad.keymap.keyOf id)

/-- The event releases what has expired, and the key is in the table and has. -/
def Drops (s : Tracking) (e : Event) (key : Char) : Prop :=
  ∃ time, s.seenAt? key = some time ∧ e.Expires s.tracker.hold time

/-- The event takes the latched key, or drops a key from the table. -/
def Empties (s : Tracking) (e : Event) : Prop :=
  e = .consume ∨ ∃ key time, s.seenAt? key = some time ∧ e.Expires s.tracker.hold time

/-- A key event presses one key at most. -/
theorem Presses.eq {s : Tracking} {event : KeyEvent} {now : Nat} {id other : KeyId}
    (h₁ : s.Presses (.key event now) id) (h₂ : s.Presses (.key event now) other) : id = other :=
  Keymap.keyOf_inj.1 (h₁.1.eq h₂.1)

/-- What a key event presses goes down on the keypad.  If it presses nothing, the keypad
stays as it was. -/
theorem keypad_key (s : Tracking) (event : KeyEvent) (now : Nat) :
    (∃ id, s.Presses (.key event now) id
        ∧ (s.perform (.key event now)).keypad = (s.keypad.press (s.keypad.keymap.keyOf id)).2)
      ∨ ((∀ id, ¬ s.Presses (.key event now) id)
        ∧ (s.perform (.key event now)).keypad = s.keypad) := by
  have struck := s.struck event now
  generalize s.perform (.key event now) = next at struck ⊢
  cases struck with
  | @again key time strikes tracked =>
    refine .inr ⟨?_, rfl⟩
    rintro id ⟨struck, untracked⟩
    rw [← strikes.eq struck] at untracked
    exact untracked ⟨time, tracked⟩
  | @pressed key id strikes untracked bound =>
    obtain rfl := Keymap.id?_eq_some_iff.1 bound
    refine .inl ⟨id, ⟨strikes, ?_⟩, rfl⟩
    rintro ⟨time, seen⟩
    rw [untracked] at seen
    cases seen
  | ignored unknown =>
    refine .inr ⟨?_, rfl⟩
    rintro id ⟨struck, _⟩
    have unbound := (unknown _ struck).2
    rw [Keymap.id?_keyOf] at unbound
    cases unbound

/-- A key event holds the key that it presses. -/
theorem held_key (s : Tracking) (event : KeyEvent) (now : Nat) (id : KeyId) :
    (s.perform (.key event now)).keypad.held.get id = true
      ↔ s.Presses (.key event now) id ∨ s.keypad.held.get id = true := by
  rcases s.keypad_key event now with ⟨pressed, presses, same⟩ | ⟨unpressed, same⟩
  · rw [same, Keypad.held_press (Keymap.id?_keyOf _ pressed)]
    refine or_congr_left ⟨?_, ?_⟩
    · rintro rfl
      exact presses
    · exact fun other => other.eq presses
  · rw [same]
    exact (or_iff_right (unpressed id)).symm

/-- A key event fills the latch with the key that it presses, or leaves it. -/
theorem latched_key (s : Tracking) (event : KeyEvent) (now : Nat) (id : KeyId) :
    (s.perform (.key event now)).keypad.latched = some id
      ↔ s.Presses (.key event now) id
        ∨ (s.keypad.latched = some id ∧ ∀ other, ¬ s.Presses (.key event now) other) := by
  rcases s.keypad_key event now with ⟨pressed, presses, same⟩ | ⟨unpressed, same⟩
  · rw [same, Keypad.press_of_bound (Keymap.id?_keyOf _ pressed), Option.some.injEq]
    constructor
    · rintro rfl
      exact .inl presses
    · rintro (other | ⟨_, unpressed⟩)
      · exact presses.eq other
      · exact absurd presses (unpressed pressed)
  · rw [same]
    simp [unpressed]

/-- A key event for a key in the table does not reach the keypad. -/
theorem keypad_perform_of_tracked {s : Tracking} {event : KeyEvent} {key : Char}
    (strikes : event.Strikes key) (tracked : s.Tracks key) (now : Nat) :
    (s.perform (.key event now)).keypad = s.keypad := by
  rcases s.keypad_key event now with ⟨id, ⟨struck, untracked⟩, _⟩ | ⟨_, same⟩
  · rw [← strikes.eq struck] at untracked
    exact absurd tracked untracked
  · exact same

theorem mem_expiredKeys_iff_drops {s : Tracking} {now : Nat} {key : Char} :
    key ∈ s.tracker.expiredKeys now ↔ s.Drops (.expire now) key :=
  KeyTracker.mem_expiredKeys

/-- What a release drops is no longer held. -/
theorem held_expire (s : Tracking) (now : Nat) (id : KeyId) :
    (s.perform (.expire now)).keypad.held.get id = true
      ↔ s.keypad.held.get id = true ∧ ¬ s.Drops (.expire now) (s.keypad.keymap.keyOf id) := by
  rw [perform_expire, Keypad.held_releaseAll, mem_expiredKeys_iff_drops, and_comm]

/-- A release that drops a bound key empties the latch. -/
theorem latched_expire (s : Tracking) (now : Nat) (id : KeyId) :
    (s.perform (.expire now)).keypad.latched = some id
      ↔ s.keypad.latched = some id
        ∧ ∀ key, s.Drops (.expire now) key → s.keypad.keymap.id? key = none := by
  rw [perform_expire, Keypad.latched_releaseAll]
  simp only [mem_expiredKeys_iff_drops]

/-- A key event that is for no bound key does nothing. -/
theorem perform_of_unbound {s : Tracking} {event : KeyEvent}
    (unbound : ∀ key, event.Strikes key → ¬ s.Tracks key ∧ s.keypad.keymap.id? key = none)
    (now : Nat) : s.perform (.key event now) = s := by
  have struck := s.struck event now
  generalize s.perform (.key event now) = next at struck ⊢
  cases struck with
  | again strikes tracked => exact absurd ⟨_, tracked⟩ (unbound _ strikes).1
  | pressed strikes _ bound =>
    rw [(unbound _ strikes).2] at bound
    cases bound
  | ignored => rfl

theorem tracks_mark {s : Tracking} {key other : Char} {now : Nat} {keypad : Keypad} :
    Tracks ⟨s.tracker.mark key now, keypad⟩ other ↔ other = key ∨ s.Tracks other := by
  simp only [Tracks, seenAt?, KeyTracker.seenAt?_mark]
  split
  · next same => simp [same]
  · next different => simp [different]

/-- A key enters the table when it is struck and bound, and leaves it when it is
dropped. -/
theorem tracks_perform (s : Tracking) (e : Event) (key : Char) :
    (s.perform e).Tracks key
      ↔ (e.Strikes key ∧ ∃ id, s.keypad.keymap.id? key = some id)
        ∨ (s.Tracks key ∧ ¬ s.Drops e key) := by
  cases e with
  | key event now =>
    have undropped : ¬ s.Drops (.key event now) key := fun ⟨_, _, expires⟩ => expires
    simp only [undropped, not_false_eq_true, and_true]
    have struck := s.struck event now
    generalize s.perform (.key event now) = next at struck ⊢
    cases struck with
    | @again other time strikes tracked =>
      rw [tracks_mark]
      constructor
      · rintro (rfl | kept)
        · exact .inr ⟨time, tracked⟩
        · exact .inr kept
      · rintro (⟨struck, _⟩ | kept)
        · exact .inl (KeyEvent.Strikes.eq struck strikes)
        · exact .inr kept
    | @pressed other id strikes untracked bound =>
      rw [tracks_mark]
      refine or_congr_left ⟨?_, ?_⟩
      · rintro rfl
        exact ⟨strikes, id, bound⟩
      · exact fun ⟨struck, _⟩ => KeyEvent.Strikes.eq struck strikes
    | ignored unknown =>
      refine (or_iff_right ?_).symm
      rintro ⟨struck, id, bound⟩
      rw [(unknown key struck).2] at bound
      cases bound
  | expire now =>
    simp only [Event.Strikes, false_and, false_or]
    constructor
    · rintro ⟨time, seen⟩
      obtain ⟨before, early⟩ := KeyTracker.seenAt?_dropExpired.1 seen
      refine ⟨⟨time, before⟩, ?_⟩
      rintro ⟨other, again, late⟩
      cases before.symm.trans again
      exact Nat.not_le.2 early late
    · rintro ⟨⟨time, seen⟩, kept⟩
      refine ⟨time, KeyTracker.seenAt?_dropExpired.2 ⟨seen, ?_⟩⟩
      exact Nat.not_le.1 fun late => kept ⟨time, seen, late⟩
  | consume =>
    have undropped : ¬ s.Drops .consume key := fun ⟨_, _, expires⟩ => expires
    simp only [Event.Strikes, false_and, false_or, undropped, not_false_eq_true, and_true]
    rfl

/-- A key goes down when it is pressed, and up when it is dropped. -/
theorem held_perform (s : Tracking) (e : Event) (id : KeyId) :
    (s.perform e).keypad.held.get id = true
      ↔ s.Presses e id
        ∨ (s.keypad.held.get id = true ∧ ¬ s.Drops e (s.keypad.keymap.keyOf id)) := by
  cases e with
  | key event now =>
    rw [held_key]
    simp [Drops, Event.Expires]
  | expire now =>
    rw [held_expire]
    simp [Presses, Event.Strikes]
  | consume => simp [perform, Keypad.consume, Presses, Event.Strikes, Drops, Event.Expires]

theorem keymap_perform (s : Tracking) (e : Event) :
    (s.perform e).keypad.keymap = s.keypad.keymap := by
  cases e with
  | key event now =>
    rcases s.keypad_key event now with ⟨id, _, same⟩ | ⟨_, same⟩
    · rw [same, Keypad.keymap_press]
    · rw [same]
  | expire now => exact s.keypad.keymap_releaseAll _
  | consume => rfl

/-- The table is what the history says, and the keypad holds the keys of the
table. -/
structure InStep (m : Keymap) (hold : Nat) (history : List Event) (s : Tracking) : Prop where
  holdTime : s.tracker.hold = hold
  keymap : s.keypad.keymap = m
  seen : ∀ key time, s.seenAt? key = some time
    ↔ (∃ id, m.id? key = some id) ∧ HeldSince hold history key time
  held : ∀ id, s.keypad.held.get id = true ↔ s.Tracks (m.keyOf id)

namespace InStep

variable {m : Keymap} {hold : Nat} {history : List Event} {s : Tracking}

/-- An empty table and a new keypad agree. -/
theorem fresh (m : Keymap) (hold : Nat) : InStep m hold [] ⟨.empty hold, { keymap := m }⟩ where
  holdTime := rfl
  keymap := rfl
  seen := by
    intro key time
    simp only [heldSince_nil, and_false, iff_false]
    intro seen
    cases seen
  held := by
    intro id
    show (Vector.replicate 16 false)[id] = true ↔ _
    simp [Tracks, seenAt?, KeyTracker.seenAt?, KeyTracker.empty]

/-- Only bound keys are in the table. -/
theorem bound (h : InStep m hold history s) {key : Char} (tracked : s.Tracks key) :
    ∃ id, m.id? key = some id := by
  obtain ⟨time, seen⟩ := tracked
  exact ((h.seen key time).1 seen).1

/-- A bound key is struck, and its time is recorded. -/
theorem seen_mark (h : InStep m hold history s) {event : KeyEvent} {key : Char} {now : Nat}
    (strikes : event.Strikes key) (bound : ∃ id, m.id? key = some id) (keypad : Keypad)
    (other : Char) (time : Nat) :
    seenAt? ⟨s.tracker.mark key now, keypad⟩ other = some time
      ↔ (∃ id, m.id? other = some id)
        ∧ HeldSince hold (history ++ [.key event now]) other time := by
  show (s.tracker.mark key now).seenAt? other = some time ↔ _
  rw [KeyTracker.seenAt?_mark]
  by_cases same : other = key
  · subst same
    rw [if_pos rfl, heldSince_concat]
    have again : (Event.key event now).Strikes other := strikes
    simp [bound, strikes, again]
  · have unstruck : ¬ (Event.key event now).Strikes other := fun struck => same (struck.eq strikes)
    rw [if_neg same, heldSince_concat_of_quiet unstruck not_false]
    exact h.seen other time

theorem key (h : InStep m hold history s) (event : KeyEvent) (now : Nat) :
    InStep m hold (history ++ [.key event now]) (s.perform (.key event now)) := by
  obtain rfl : s.keypad.keymap = m := h.keymap
  have struck := s.struck event now
  generalize s.perform (.key event now) = next at struck ⊢
  cases struck with
  | @again key time strikes tracked =>
    refine ⟨h.holdTime, rfl, h.seen_mark strikes (h.bound ⟨time, tracked⟩) _, ?_⟩
    intro id
    rw [tracks_mark, h.held]
    constructor
    · exact .inr
    · rintro (same | held)
      · rw [same]
        exact ⟨time, tracked⟩
      · exact held
  | @pressed key id strikes untracked bound =>
    refine ⟨h.holdTime, s.keypad.keymap_press key, h.seen_mark strikes ⟨id, bound⟩ _, ?_⟩
    intro other
    rw [tracks_mark, Keypad.held_press bound, h.held, Keymap.id?_eq_some_iff.1 bound,
      Keymap.keyOf_inj]
  | ignored unknown =>
    refine ⟨h.holdTime, rfl, ?_, h.held⟩
    intro other time
    refine (h.seen other time).trans (and_congr_right ?_)
    rintro ⟨id, bound⟩
    have unstruck : ¬ (Event.key event now).Strikes other := by
      intro strikes
      rw [(unknown other strikes).2] at bound
      cases bound
    exact (heldSince_concat_of_quiet unstruck not_false).symm

theorem expire (h : InStep m hold history s) (now : Nat) :
    InStep m hold (history ++ [.expire now]) (s.perform (.expire now)) := by
  obtain rfl : s.keypad.keymap = m := h.keymap
  obtain rfl : s.tracker.hold = hold := h.holdTime
  rw [perform_expire]
  have seen : ∀ key time, seenAt? ⟨s.tracker.dropExpired now,
      s.keypad.releaseAll (s.tracker.expiredKeys now)⟩ key = some time
        ↔ s.seenAt? key = some time ∧ now - time < s.tracker.hold :=
    fun key time => KeyTracker.seenAt?_dropExpired
  refine ⟨rfl, s.keypad.keymap_releaseAll _, ?_, ?_⟩
  · intro key time
    rw [seen, h.seen, heldSince_concat]
    simp only [Event.Strikes, Event.Expires, not_false_eq_true, true_and, Nat.not_le, and_assoc,
      reduceCtorEq, false_and, exists_false, false_or]
  · intro id
    rw [Keypad.held_releaseAll, KeyTracker.mem_expiredKeys, h.held]
    simp only [Tracks, seen]
    constructor
    · rintro ⟨kept, time, tracked⟩
      exact ⟨time, tracked, Nat.not_le.1 fun late => kept ⟨time, tracked, late⟩⟩
    · rintro ⟨time, tracked, early⟩
      refine ⟨?_, time, tracked⟩
      rintro ⟨other, same, late⟩
      rw [show s.tracker.seenAt? _ = some time from tracked] at same
      cases same
      exact Nat.not_le.2 early late

theorem consume (h : InStep m hold history s) :
    InStep m hold (history ++ [.consume]) (s.perform .consume) where
  holdTime := h.holdTime
  keymap := h.keymap
  seen := fun key time => (h.seen key time).trans
    (and_congr_right fun _ => (heldSince_concat_of_quiet (e := .consume) not_false not_false).symm)
  held := h.held

theorem perform (h : InStep m hold history s) (e : Event) :
    InStep m hold (history ++ [e]) (s.perform e) := by
  cases e with
  | key event now => exact h.key event now
  | expire now => exact h.expire now
  | consume => exact h.consume

theorem after (h : InStep m hold history s) (later : List Event) :
    InStep m hold (history ++ later) (s.after later) := by
  induction later generalizing history s with
  | nil => rwa [List.append_nil]
  | cons e rest ih =>
    rw [List.append_cons]
    exact ih (h.perform e)

/-! ## Single steps -/

/-- There is a place in the table for every key of the keypad. -/
theorem length_seen (h : InStep m hold history s) : s.tracker.seen.length ≤ 16 := by
  have among : s.tracker.seen.map Prod.fst ⊆ m.keys := by
    intro key listed
    obtain ⟨⟨_, time⟩, tracked, rfl⟩ := List.mem_map.1 listed
    obtain ⟨id, bound⟩ := h.bound ⟨time, KeyTracker.seenAt?_eq_some.2 tracked⟩
    exact List.mem_map_of_mem (Keymap.id?_eq_some_iff_mem.1 bound)
  have most := (List.subperm_of_subset s.tracker.keys_nodup among).length_le
  rwa [List.length_map, Bindings.keys, List.length_map, m.length_entries] at most

/-- A key enters the table when it is struck, if it is bound. -/
theorem tracks_perform_iff (h : InStep m hold history s) (e : Event) {key : Char}
    (untracked : ¬ s.Tracks key) :
    (s.perform e).Tracks key ↔ e.Strikes key ∧ ∃ id, m.id? key = some id := by
  rw [tracks_perform, h.keymap]
  exact or_iff_left fun ⟨tracked, _⟩ => untracked tracked

/-- It leaves the table when it expires. -/
theorem not_tracks_perform_iff (h : InStep m hold history s) (e : Event) {key : Char} {time : Nat}
    (seen : s.seenAt? key = some time) : ¬ (s.perform e).Tracks key ↔ e.Expires hold time := by
  obtain ⟨bound, held⟩ := (h.seen key time).1 seen
  simp only [Tracks, (h.perform e).seen, heldSince_concat]
  constructor
  · intro gone
    by_contra unexpired
    by_cases struck : e.Strikes key
    · obtain ⟨event, now, same, strikes⟩ := Event.strikes_iff.1 struck
      exact gone ⟨now, bound, .inl ⟨event, same, strikes⟩⟩
    · exact gone ⟨time, bound, .inr ⟨held, struck, unexpired⟩⟩
  · rintro expires ⟨other, _, ⟨event, rfl, strikes⟩ | ⟨again, _, unexpired⟩⟩
    · exact expires
    · -- the table has one time for the key
      have same := (h.seen key other).2 ⟨bound, again⟩
      rw [seen] at same
      cases same
      exact unexpired expires

theorem latched_expire (h : InStep m hold history s) (now : Nat) (id : KeyId) :
    (s.perform (.expire now)).keypad.latched = some id
      ↔ s.keypad.latched = some id ∧ ¬ s.Empties (.expire now) := by
  rw [Tracking.latched_expire]
  refine and_congr_right fun _ => ?_
  constructor
  · rintro unbound (taken | ⟨key, time, seen, expires⟩)
    · cases taken
    · obtain ⟨id, bound⟩ := h.bound ⟨time, seen⟩
      rw [← h.keymap, unbound key ⟨time, seen, expires⟩] at bound
      cases bound
  · intro kept key dropped
    exact absurd (.inr ⟨key, dropped⟩) kept

/-- A strike of a bound key that is not in the table fills the latch.  Taking the
latched key and dropping a key from the table empties it. -/
theorem latched_perform (h : InStep m hold history s) (e : Event) (id : KeyId) :
    (s.perform e).keypad.latched = some id
      ↔ s.Presses e id
        ∨ (s.keypad.latched = some id ∧ (∀ other, ¬ s.Presses e other) ∧ ¬ s.Empties e) := by
  cases e with
  | key event now =>
    rw [latched_key]
    simp [Empties, Event.Expires]
  | expire now =>
    rw [h.latched_expire]
    simp [Presses, Event.Strikes]
  | consume => simp [Tracking.perform, Keypad.consume, Presses, Event.Strikes, Empties]

end InStep

/-! ## The main statement -/

/-- **Keys are tracked as they are struck.**  Start from an empty table and a new
keypad, and take the state after any history.  A key is in the table exactly if
it is bound and was struck, and nothing expired it since the last strike, whose
time the table has.  There are at most sixteen such keys, and a byte is down
exactly if it is an id whose key is one of them.  A key enters the table when it is
struck and bound, and leaves it with the first release that comes the hold time
after its last strike, or later.  The latch is filled by a strike of a bound key
that is not in the table, and emptied when it is taken or a key leaves the table.
A key that is struck again does not reach the keypad.  Escape and other keys
without a character, a small `c` with the control key, and keys that are not bound
do nothing. -/
theorem keys_tracked {entries : List KeyEntry} {fresh : Keypad} {hold : Nat}
    {history : List Event} {s : Tracking} (built : Keypad.ofList entries = .ok fresh)
    (ended : s = after ⟨.empty hold, fresh⟩ history) :
    (s.tracker.hold = hold ∧ s.keypad.keymap = fresh.keymap)
      ∧ (∀ key time, s.seenAt? key = some time
        ↔ (∃ id, fresh.keymap.id? key = some id) ∧ HeldSince hold history key time)
      ∧ s.tracker.seen.length ≤ 16
      ∧ (∀ byte, s.keypad.isDown byte = true
        ↔ ∃ id : KeyId, byte.toNat = id.val ∧ s.Tracks (fresh.keymap.keyOf id))
      ∧ (∀ e key, ¬ s.Tracks key → ((s.perform e).Tracks key
        ↔ e.Strikes key ∧ ∃ id, fresh.keymap.id? key = some id))
      ∧ (∀ e key time, s.seenAt? key = some time →
        (¬ (s.perform e).Tracks key ↔ e.Expires hold time))
      ∧ (∀ e id, (s.perform e).keypad.latched = some id
        ↔ s.Presses e id
          ∨ (s.keypad.latched = some id ∧ (∀ other, ¬ s.Presses e other) ∧ ¬ s.Empties e))
      ∧ (∀ event key now, event.Strikes key → s.Tracks key →
        (s.perform (.key event now)).keypad = s.keypad)
      ∧ (∀ event now, (∀ c, event.code ≠ .char c)
          ∨ (event.code = .char 'c' ∧ event.control = true)
          ∨ (∃ key, event.Strikes key ∧ fresh.keymap.id? key = none) →
        s.perform (.key event now) = s) := by
  obtain ⟨m, rfl⟩ : ∃ m, fresh = { keymap := m } := ⟨_, Keypad.eq_of_ofList built⟩
  have inStep : InStep m hold history s := by
    rw [ended]
    exact (InStep.fresh m hold).after history
  refine ⟨⟨inStep.holdTime, inStep.keymap⟩, inStep.seen, inStep.length_seen, ?_, ?_, ?_, ?_, ?_, ?_⟩
  · intro byte
    rw [Keypad.isDown_eq_true]
    exact exists_congr fun id => and_congr_right fun _ => inStep.held id
  · intro e key untracked
    exact inStep.tracks_perform_iff e untracked
  · intro e key time seen
    exact inStep.not_tracks_perform_iff e seen
  · intro e id
    exact inStep.latched_perform e id
  · intro event key now strikes tracked
    exact keypad_perform_of_tracked strikes tracked now
  · intro event now none_bound
    refine perform_of_unbound ?_ now
    intro key strikes
    have unbound : m.id? key = none := by
      obtain ⟨c, code, lower, typed⟩ := strikes
      rcases none_bound with other | ⟨small, control⟩ | ⟨_, struck, unbound⟩
      · exact absurd code (other c)
      · rw [small] at code
        cases code
        exact absurd ⟨rfl, control⟩ typed
      · rwa [struck.eq ⟨c, code, lower, typed⟩] at unbound
    refine ⟨?_, by rwa [inStep.keymap]⟩
    intro tracked
    obtain ⟨id, bound⟩ := inStep.bound tracked
    rw [unbound] at bound
    cases bound

/-- A key that is struck, taken by a program and struck again with the shift key,
among others that do nothing. -/
def typing : List Event := [
  .key { code := .char 'w' } 0, .consume, .key { code := .char 'W', shift := true } 30,
  .key { code := .char 'p' } 40, .key { code := .escape } 50, .expire 100]

/-- A tracker and its keypad after that. -/
def typed : Tracking := after ⟨.empty 100, { keymap := Keymap.conventional }⟩ typing

/-- The key counts as held from its last strike on, and was latched once. -/
theorem keys_tracked_typed :
    typed.seenAt? 'w' = some 30 ∧ typed.keypad.isDown 5 = true ∧ typed.keypad.latched = none
      ∧ ¬ (typed.perform (.expire 130)).Tracks 'w'
      ∧ typed.perform (.key { code := .enter } 140) = typed := by
  have built : Keypad.ofList Keymap.conventional.toList
      = .ok { keymap := Keymap.conventional } := by
    rw [Keypad.ofList, Keymap.ofList_toList]
  obtain ⟨_, seen, _, down, _, leaves, _, _, unmoved⟩ := keys_tracked built (Eq.refl typed)
  have bound : Keymap.conventional.id? 'w' = some 5 := by decide
  have last : typed.seenAt? 'w' = some 30 := by
    refine (seen 'w' 30).2 ⟨⟨5, bound⟩, typing.take 2, _, typing.drop 3, rfl, ?_, ?_⟩
    · decide
    · decide
  refine ⟨last, ?_, by decide, ?_, ?_⟩
  · refine (down 5).2 ⟨5, rfl, 30, ?_⟩
    rw [← Keymap.id?_eq_some_iff.1 bound]
    exact last
  · exact (leaves (.expire 130) 'w' 30 last).2 (by decide)
  · exact unmoved _ _ (.inl fun c => by simp)

end Tracking

end Chip8Console
