import Chip8Console.Proofs.KeyTracking

/-!
# Strikes that press nothing

A strike presses a bound key that is not in the table.  For a key in the table it only
renews the time.  That is right while the table has the keys that are held, and twice it
has others.

* A key leaves the table when a release runs, and not when its hold time is over.  A
  strike that comes before the release is taken for a repetition, however late it is.
* A keypad is cleared at the end of a session, and when it gets a keymap.  Then no key is
  held, but the table stays as it was.  A key that is in it at that time is *stale* until
  it leaves the table.  Its strikes are taken for repetitions, and it is not down.

Apart from stale keys, the held keys are the bound keys of the table, whatever keymap is
in force.

* `Tracking.restrike_counts_iff`: when a strike of a key that was struck before is a press.
* `Tracking.late_strike_missed`: its lateness does not make it one.
* `Tracking.Stale`: the key has been in the table since the keypad was cleared.
* `Tracking.held_through`: held keys, table and stale keys.
* `Tracking.struck_key_down_iff`: when a key is down after a strike.
* `Tracking.stale_strike_missed`: it need not be.
-/

namespace Chip8Console

namespace Tracking

/-! ## Strikes after the hold time -/

/-- After a last strike a key counts as held from then on, until something expires it. -/
theorem heldSince_of_last {hold : Nat} {earlier between : List Event} {event : KeyEvent}
    {key : Char} {time : Nat} (strikes : event.Strikes key)
    (last : ∀ e ∈ between, ¬ e.Strikes key) (seen : Nat) :
    HeldSince hold (earlier ++ .key event time :: between) key seen
      ↔ seen = time ∧ ∀ e ∈ between, ¬ e.Expires hold time := by
  induction between using List.reverseRecOn with
  | nil =>
    have struck : (Event.key event time).Strikes key := strikes
    rw [heldSince_concat]
    simp [struck, strikes, eq_comm]
  | append_singleton rest e ih =>
    have unstruck : ¬ e.Strikes key := last e (List.mem_append_right _ List.mem_cons_self)
    have onward := ih fun other listed => last other (List.mem_append_left _ listed)
    rw [← List.cons_append, ← List.append_assoc, heldSince_concat, onward, List.forall_mem_append,
      List.forall_mem_singleton]
    constructor
    · rintro (⟨other, rfl, struck⟩ | ⟨⟨rfl, kept⟩, _, still⟩)
      · exact absurd struck unstruck
      · exact ⟨rfl, kept, still⟩
    · rintro ⟨rfl, kept, still⟩
      exact .inr ⟨⟨rfl, kept⟩, unstruck, still⟩

/-- A bound key is in the table from a last strike on, until something expires it. -/
theorem InStep.tracks_of_last {m : Keymap} {hold : Nat} {earlier between : List Event}
    {event : KeyEvent} {key : Char} {time : Nat} {id : KeyId} {s : Tracking}
    (h : InStep m hold (earlier ++ .key event time :: between) s) (strikes : event.Strikes key)
    (last : ∀ e ∈ between, ¬ e.Strikes key) (bound : m.id? key = some id) :
    s.Tracks key ↔ ∀ e ∈ between, ¬ e.Expires hold time := by
  simp only [Tracks, h.seen, heldSince_of_last strikes last]
  constructor
  · rintro ⟨_, _, _, kept⟩
    exact kept
  · exact fun kept => ⟨time, ⟨id, bound⟩, rfl, kept⟩

/-- **When a strike of a key counts again.**  A bound key was struck before, at a given
time, and not since.  It is struck again.  Then it is down.  It is handed out next
exactly if something expired it in between, or if it would have been handed out without
this strike as well.  The time of the strike is of no account. -/
theorem restrike_counts_iff {entries : List KeyEntry} {fresh : Keypad} {hold : Nat}
    {earlier between : List Event} {previous event : KeyEvent} {key : Char} {id : KeyId}
    {time : Nat} {s : Tracking} (built : Keypad.ofList entries = .ok fresh)
    (ended : s = after ⟨.empty hold, fresh⟩ (earlier ++ .key previous time :: between))
    (struck : previous.Strikes key) (last : ∀ e ∈ between, ¬ e.Strikes key)
    (strikes : event.Strikes key) (bound : fresh.keymap.id? key = some id) (now : Nat) :
    (s.perform (.key event now)).keypad.isDown (UInt8.ofNat id.val) = true
      ∧ (keyCode (s.perform (.key event now)).keypad.consume.1 = UInt8.ofNat id.val
        ↔ (∃ e ∈ between, e.Expires hold time)
          ∨ keyCode s.keypad.consume.1 = UInt8.ofNat id.val) := by
  obtain ⟨m, rfl⟩ : ∃ m, fresh = { keymap := m } := ⟨_, Keypad.eq_of_ofList built⟩
  have inStep : InStep m hold (earlier ++ .key previous time :: between) s := by
    rw [ended]
    exact (InStep.fresh m hold).after _
  have own : s.keypad.keymap.keyOf id = key := by
    rw [inStep.keymap, ← Keymap.id?_eq_some_iff.1 bound]
  have untracked : ¬ s.Tracks key ↔ ∃ e ∈ between, e.Expires hold time := by
    rw [inStep.tracks_of_last struck last bound]
    push Not
    rfl
  have presses : s.Presses (.key event now) id ↔ ¬ s.Tracks key := by
    rw [Presses, own]
    exact and_iff_right strikes
  constructor
  · rw [Keypad.isDown_number, held_key, presses, inStep.held, ← Keymap.id?_eq_some_iff.1 bound]
    exact (em (s.Tracks key)).symm
  · rw [Keypad.keyCode_eq_ofNat, Keypad.keyCode_eq_ofNat, ← untracked, ← presses]
    show (s.perform (.key event now)).keypad.latched = some id ↔ _ ∨ s.keypad.latched = some id
    rw [latched_key]
    constructor
    · rintro (pressed | ⟨latched, _⟩)
      · exact .inl pressed
      · exact .inr latched
    · rintro (pressed | latched)
      · exact .inl pressed
      · by_cases pressed : s.Presses (.key event now) id
        · exact .inl pressed
        · refine .inr ⟨latched, fun other others => pressed ?_⟩
          have same := Keymap.keyOf_inj.1 ((others.1.eq strikes).trans own.symm)
          rwa [← same]

/-- The plain strike of a character. -/
def strikeOf (c : Char) : KeyEvent := { code := .char c }

/-- Two keys are struck one after the other, with a hold time of a hundred. -/
def overlapping : List Event := [.key (strikeOf 'w') 0, .key (strikeOf 'q') 10]

/-- The tracker and the new keypad before that. -/
def untouched : Tracking := ⟨.empty 100, { keymap := Keymap.conventional }⟩

/-- The first of them is struck again when both hold times are over.  It is handed out
next if a release ran before, and else the second one is. -/
theorem restrike_counts_iff_overlapping :
    keyCode ((untouched.after (overlapping ++ [.expire 150])).perform
        (.key (strikeOf 'w') 200)).keypad.consume.1 = 5
      ∧ keyCode ((untouched.after overlapping).perform
        (.key (strikeOf 'w') 200)).keypad.consume.1 ≠ 5 := by
  have struck : (strikeOf 'w').Strikes 'w' := by decide
  have bound : Keymap.conventional.id? 'w' = some 5 := by decide
  constructor
  · have ended : untouched.after (overlapping ++ [.expire 150])
        = untouched.after ([] ++ .key (strikeOf 'w') 0 :: [.key (strikeOf 'q') 10, .expire 150]) :=
      rfl
    refine (restrike_counts_iff (Keypad.ofList_toList _) ended struck (by decide) struck bound 200).2.2
      (.inl ⟨.expire 150, ?_, ?_⟩)
    · exact List.mem_cons_of_mem _ List.mem_cons_self
    · decide
  · have ended : untouched.after overlapping
        = untouched.after ([] ++ .key (strikeOf 'w') 0 :: [.key (strikeOf 'q') 10]) := rfl
    intro counts
    rcases (restrike_counts_iff (Keypad.ofList_toList _) ended struck (by decide) struck bound 200).2.1
      counts with expired | before
    · exact absurd expired (by decide)
    · exact absurd before (by decide)

/-- When an event happens.  A program does not say when it takes the latched key. -/
def Event.time? : Event → Option Nat
  | .key _ now | .expire now => some now
  | .consume => none

/-- The events come in the order of their times. -/
def InOrder (history : List Event) : Prop :=
  (history.filterMap Event.time?).Pairwise (· ≤ ·)

instance decidableInOrder (history : List Event) : Decidable (InOrder history) :=
  inferInstanceAs (Decidable (List.Pairwise _ _))

/-- It is not so that a strike of a bound key is a press if it comes the hold time after
the last one, or later. -/
theorem late_strike_missed :
    ¬ ∀ (entries : List KeyEntry) (fresh : Keypad) (hold : Nat) (earlier between : List Event)
        (previous event : KeyEvent) (key : Char) (id : KeyId) (time now : Nat)
        (struck : Tracking),
      Keypad.ofList entries = .ok fresh → 0 < hold →
      .consume ∉ earlier ++ between →
      InOrder (earlier ++ .key previous time :: between ++ [.key event now]) →
      previous.Strikes key → (∀ e ∈ between, ¬ e.Strikes key) → event.Strikes key →
      fresh.keymap.id? key = some id → time + hold ≤ now →
      struck = after ⟨.empty hold, fresh⟩
        (earlier ++ .key previous time :: between ++ [.key event now]) →
      struck.keypad.isDown (UInt8.ofNat id.val) = true
        ∧ keyCode struck.keypad.consume.1 = UInt8.ofNat id.val := by
  intro claim
  have counts := (claim Keymap.conventional.toList _ 100 [] [.key (strikeOf 'q') 10] (strikeOf 'w')
    (strikeOf 'w') 'w' 5 0 200 _ (Keypad.ofList_toList _) (by decide) (by simp) (by decide) (by decide)
    (by decide) (by decide) (by decide) (by decide) rfl).2
  exact absurd counts (by decide)

/-! ## Keypads that are cleared -/

/-- Something that happens to a tracker and its keypad while sessions come and go. -/
inductive SessionEvent where
  /-- A key event, a release or a program that takes the latched key. -/
  | input (e : Event)
  /-- A session ends. -/
  | reset
  /-- The keypad is to get a keymap. -/
  | configure (entries : List KeyEntry)

/-- The event lets go of all keys of the keypad. -/
def SessionEvent.Clears : SessionEvent → Prop
  | .input _ => False
  | .reset => True
  | .configure entries => (Keymap.ofList entries).isOk = true

def manage (s : Tracking) : SessionEvent → Tracking
  | .input e => s.perform e
  | .reset => { s with keypad := s.keypad.reset }
  | .configure entries => { s with keypad := (s.keypad.configure entries).2 }

/-- The tracker and its keypad after a history with sessions. -/
def through (s : Tracking) (history : List SessionEvent) : Tracking := history.foldl manage s

theorem through_concat (s : Tracking) (history : List SessionEvent) (e : SessionEvent) :
    s.through (history ++ [e]) = (s.through history).manage e :=
  List.foldl_concat ..

/-- The key has been in the table since the keypad was cleared. -/
inductive Stale (start : Tracking) (key : Char) : List SessionEvent → Prop where
  /-- The keypad is cleared while the key is in the table. -/
  | cleared {history : List SessionEvent} {e : SessionEvent} (clears : e.Clears)
      (tracked : (start.through history).Tracks key) : Stale start key (history ++ [e])
  /-- The key stays in the table. -/
  | still {history : List SessionEvent} {e : SessionEvent} (stale : Stale start key history)
      (tracked : (start.through (history ++ [e])).Tracks key) : Stale start key (history ++ [e])

variable {start : Tracking} {history : List SessionEvent}

theorem not_drops_of_strikes {s : Tracking} {e : Event} {key other : Char}
    (strikes : e.Strikes key) : ¬ s.Drops e other := by
  obtain ⟨event, now, rfl, _⟩ := Event.strikes_iff.1 strikes
  rintro ⟨_, _, expires⟩
  exact expires

/-- The table does not notice that the keypad is cleared. -/
theorem tracks_manage_of_clears {s : Tracking} {e : SessionEvent} (clears : e.Clears)
    (key : Char) : (s.manage e).Tracks key ↔ s.Tracks key := by
  cases e with
  | input e => exact absurd clears not_false
  | reset => rfl
  | configure entries => rfl

theorem stale_concat {key : Char} {e : SessionEvent} :
    Stale start key (history ++ [e])
      ↔ (start.through (history ++ [e])).Tracks key ∧ (e.Clears ∨ Stale start key history) := by
  constructor
  · intro stale
    generalize split : history ++ [e] = whole at stale ⊢
    cases stale with
    | cleared clears tracked =>
      obtain ⟨_, same⟩ := List.append_inj' split rfl
      cases same
      rw [through_concat, tracks_manage_of_clears clears]
      exact ⟨tracked, .inl clears⟩
    | still stale tracked =>
      obtain ⟨before, _⟩ := List.append_inj' split rfl
      rw [before]
      exact ⟨tracked, .inr stale⟩
  · rintro ⟨tracked, clears | stale⟩
    · rw [through_concat, tracks_manage_of_clears clears] at tracked
      exact .cleared clears tracked
    · exact .still stale tracked

/-- What is stale is in the table. -/
theorem Stale.tracks {key : Char} (stale : Stale start key history) :
    (start.through history).Tracks key := by
  cases stale with
  | cleared clears tracked => rwa [through_concat, tracks_manage_of_clears clears]
  | still _ tracked => exact tracked

/-- A new keypad holds nothing. -/
theorem not_held_fresh (m : Keymap) (id : KeyId) :
    ¬ ({ keymap := m } : Keypad).held.get id = true := by
  show ¬ (Vector.replicate 16 false)[id] = true
  simp

/-- The held keys are those of the table that are not stale, by the bindings in force. -/
def HoldsFreshKeys (start : Tracking) (history : List SessionEvent) : Prop :=
  ∀ id, (start.through history).keypad.held.get id = true
    ↔ (start.through history).Tracks ((start.through history).keypad.keymap.keyOf id)
      ∧ ¬ Stale start ((start.through history).keypad.keymap.keyOf id) history

namespace HoldsFreshKeys

/-- The keys of the table are stale once the keypad is cleared, and nothing is held. -/
theorem of_clears {e : SessionEvent} {m : Keymap} (clears : e.Clears)
    (cleared : (start.through (history ++ [e])).keypad = { keymap := m }) :
    HoldsFreshKeys start (history ++ [e]) := by
  intro id
  rw [stale_concat, cleared]
  refine iff_of_false (not_held_fresh m id) ?_
  rintro ⟨tracked, notStale⟩
  exact notStale ⟨tracked, .inl clears⟩

/-- An event that does nothing and clears nothing is of no account. -/
theorem of_same (h : HoldsFreshKeys start history) {e : SessionEvent} (unclear : ¬ e.Clears)
    (same : start.through (history ++ [e]) = start.through history) :
    HoldsFreshKeys start (history ++ [e]) := by
  intro id
  rw [stale_concat, same, h id]
  refine and_congr_right fun tracked => not_congr ?_
  rw [and_iff_right tracked, or_iff_right unclear]

theorem input (h : HoldsFreshKeys start history) (e : Event) :
    HoldsFreshKeys start (history ++ [.input e]) := by
  intro id
  have held := h id
  have tracked : ∀ key, Stale start key history → (start.through history).Tracks key :=
    fun _ stale => stale.tracks
  have unclear : ¬ (SessionEvent.input e).Clears := not_false
  rw [stale_concat, through_concat, or_iff_right unclear]
  generalize start.through history = s at held tracked ⊢
  show (s.perform e).keypad.held.get id = true ↔ (s.perform e).Tracks _ ∧ _
  rw [show s.manage (.input e) = s.perform e from rfl, keymap_perform, held_perform,
    tracks_perform, held, Presses]
  have bound : ∃ own, s.keypad.keymap.id? (s.keypad.keymap.keyOf id) = some own :=
    ⟨id, Keymap.id?_keyOf _ id⟩
  generalize s.keypad.keymap.keyOf id = key at bound ⊢
  constructor
  · rintro (⟨strikes, untracked⟩ | ⟨⟨tracks, notStale⟩, kept⟩)
    · exact ⟨.inl ⟨strikes, bound⟩, fun stale => untracked (tracked key stale.2)⟩
    · exact ⟨.inr ⟨tracks, kept⟩, fun stale => notStale stale.2⟩
  · rintro ⟨tracks, notStale⟩
    have fresh : ¬ Stale start key history := fun stale => notStale ⟨tracks, stale⟩
    rcases tracks with ⟨strikes, _⟩ | ⟨tracks, kept⟩
    · -- a strike of a key in the table only renews it
      by_cases tracks : s.Tracks key
      · exact .inr ⟨⟨tracks, fresh⟩, not_drops_of_strikes strikes⟩
      · exact .inl ⟨strikes, tracks⟩
    · exact .inr ⟨⟨tracks, fresh⟩, kept⟩

theorem manage (h : HoldsFreshKeys start history) (e : SessionEvent) :
    HoldsFreshKeys start (history ++ [e]) := by
  cases e with
  | input e => exact h.input e
  | reset =>
    refine of_clears trivial (m := (start.through history).keypad.keymap) ?_
    rw [through_concat]
    rfl
  | configure entries =>
    cases read : Keymap.ofList entries with
    | ok m =>
      have clears : (SessionEvent.configure entries).Clears := by
        rw [SessionEvent.Clears, read]
        rfl
      refine of_clears clears (m := m) ?_
      rw [through_concat, Tracking.manage, Keypad.configure, Keypad.ofList, read]
    | error error =>
      refine h.of_same ?_ ?_
      · rw [SessionEvent.Clears, read]
        exact Bool.false_ne_true
      · rw [through_concat, Tracking.manage, Keypad.configure, Keypad.ofList, read]

end HoldsFreshKeys

/-- **Held keys are those of the table that are not stale.**  This is so for every
keymap that comes into force. -/
theorem held_through (m : Keymap) (hold : Nat) (history : List SessionEvent) :
    HoldsFreshKeys ⟨.empty hold, { keymap := m }⟩ history := by
  induction history using List.reverseRecOn with
  | nil =>
    intro id
    refine iff_of_false (not_held_fresh m id) ?_
    rintro ⟨⟨_, seen⟩, _⟩
    cases seen
  | append_singleton earlier e ih => exact ih.manage e

/-- What is stale stays so until it is dropped. -/
theorem not_stale_input_iff {key : Char} (stale : Stale start key history) (e : Event) :
    ¬ Stale start key (history ++ [.input e]) ↔ (start.through history).Drops e key := by
  have tracked := stale.tracks
  rw [stale_concat, through_concat]
  show ¬ (((start.through history).perform e).Tracks key ∧ _) ↔ _
  rw [tracks_perform]
  have undropped : e.Strikes key → ¬ (start.through history).Drops e key := not_drops_of_strikes
  tauto

/-- **When a strike leaves a key down.**  Keys are struck and released while sessions come
and go.  A strike of a bound key leaves it down exactly if the key is not stale.  It
becomes stale when the keypad is cleared while it is in the table, and stays so until it
is dropped. -/
theorem struck_key_down_iff {entries : List KeyEntry} {fresh : Keypad} {hold : Nat}
    {start s : Tracking} {history : List SessionEvent} {event : KeyEvent} {key : Char} {id : KeyId}
    (built : Keypad.ofList entries = .ok fresh) (begun : start = ⟨.empty hold, fresh⟩)
    (ended : s = start.through history) (strikes : event.Strikes key)
    (bound : s.keypad.keymap.id? key = some id) (now : Nat) :
    ((s.perform (.key event now)).keypad.isDown (UInt8.ofNat id.val) = true
        ↔ ¬ Stale start key history)
      ∧ (∀ e, e.Clears → (Stale start key (history ++ [e]) ↔ s.Tracks key))
      ∧ (Stale start key history →
        ∀ e, ¬ Stale start key (history ++ [.input e]) ↔ s.Drops e key) := by
  obtain ⟨m, rfl⟩ : ∃ m, fresh = { keymap := m } := ⟨_, Keypad.eq_of_ofList built⟩
  subst begun
  subst ended
  refine ⟨?_, ?_, not_stale_input_iff⟩
  · have held := held_through m hold (history ++ [.input (.key event now)]) id
    rw [stale_concat, through_concat] at held
    generalize through ⟨.empty hold, { keymap := m }⟩ history = s at bound held ⊢
    change (s.perform (.key event now)).keypad.held.get id = true
      ↔ (s.perform (.key event now)).Tracks ((s.perform (.key event now)).keypad.keymap.keyOf id)
        ∧ _ at held
    have clears : ¬ (SessionEvent.input (.key event now)).Clears := not_false
    have tracked : (s.perform (.key event now)).Tracks key :=
      (s.tracks_perform _ key).2 (.inl ⟨strikes, id, bound⟩)
    rw [show s.manage (.input (.key event now)) = s.perform (.key event now) from rfl,
      keymap_perform, ← Keymap.id?_eq_some_iff.1 bound] at held
    rw [Keypad.isDown_number, held]
    tauto
  · intro e clears
    rw [stale_concat, through_concat, tracks_manage_of_clears clears]
    exact and_iff_left (.inl clears)

/-- A key is struck, and then the session ends. -/
def interrupted : List SessionEvent := [.input (.key (strikeOf 'w') 0), .reset]

/-- The key is not down when it is struck again.  A release after the hold time helps. -/
theorem struck_key_down_iff_interrupted :
    ¬ ((untouched.through interrupted).perform (.key (strikeOf 'w') 10)).keypad.isDown 5 = true
      ∧ ((untouched.through (interrupted ++ [.input (.expire 100)])).perform
        (.key (strikeOf 'w') 110)).keypad.isDown 5 = true := by
  have begun : untouched = ⟨.empty 100, { keymap := Keymap.conventional }⟩ := rfl
  have strikes : (strikeOf 'w').Strikes 'w' := by decide
  have boundFirst : (untouched.through (interrupted.take 1)).keypad.keymap.id? 'w' = some 5 := by
    decide
  have bound : (untouched.through interrupted).keypad.keymap.id? 'w' = some 5 := by decide
  have boundLast : (untouched.through
      (interrupted ++ [.input (.expire 100)])).keypad.keymap.id? 'w' = some 5 := by decide
  obtain ⟨_, becomes, _⟩ := struck_key_down_iff (Keypad.ofList_toList _) begun rfl strikes boundFirst 0
  obtain ⟨missed, _, ends⟩ := struck_key_down_iff (Keypad.ofList_toList _) begun rfl strikes bound 10
  obtain ⟨pressed, _, _⟩ := struck_key_down_iff (Keypad.ofList_toList _) begun rfl strikes boundLast 110
  have stale : Stale untouched 'w' interrupted := (becomes .reset trivial).2 ⟨0, by decide⟩
  have dropped := (ends stale (.expire 100)).2 ⟨0, by decide, by decide⟩
  exact ⟨fun down => missed.1 down stale, pressed.2 dropped⟩

/-- It is not so that a strike of a bound key always leaves it down. -/
theorem stale_strike_missed :
    ¬ ∀ (entries : List KeyEntry) (fresh : Keypad) (hold : Nat) (history : List SessionEvent)
        (s : Tracking) (event : KeyEvent) (key : Char) (id : KeyId) (now : Nat),
      Keypad.ofList entries = .ok fresh →
      (∀ e ∈ history, e.Clears ∨ ∃ input, e = .input input ∧ input ≠ .consume) →
      s = through ⟨.empty hold, fresh⟩ history → event.Strikes key →
      s.keypad.keymap.id? key = some id →
      (s.perform (.key event now)).keypad.isDown (UInt8.ofNat id.val) = true := by
  intro claim
  have down := claim Keymap.conventional.toList _ 100 interrupted _ (strikeOf 'w') 'w' 5 10
    (Keypad.ofList_toList _) (by simp [interrupted, SessionEvent.Clears]) rfl (by decide) (by decide)
  exact absurd down (by decide)

end Tracking

end Chip8Console
