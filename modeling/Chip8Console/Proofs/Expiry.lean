import Chip8Console.Proofs.KeyTracking

/-!
# The release of what has expired

A release looks at every entry of the table.  It drops an entry that has not been
renewed for the hold time, and then the key goes up.  The entries can be looked at in
any order, because what happens depends only on which keys are let go of.  So two
releases in a row, with no strike between them, come to what the later one would have
done alone: a key that has expired at the first has expired at the second.

The table may have keys that are no longer bound.  They leave the table and the keypad
stays as it was.

* `Keypad.releaseAll_congr`: a row of releases is known by its keys.
* `Tracking.letGo`: some keys leave the table and go up.
* `Tracking.visit`: one entry is looked at.
* `Tracking.letGo_congr`, `Tracking.letGo_append`, `Tracking.visitAll_eq_letGo`.
* `Tracking.expiry_absorbs`: the main statement.
-/

namespace Chip8Console

/-! ## Releases in any order -/

namespace Keypad

/-- A keypad is known by its bindings, its held keys and its latch. -/
theorem eq_of_held {p q : Keypad} (keymap : p.keymap = q.keymap)
    (held : ∀ id : KeyId, p.held.get id = true ↔ q.held.get id = true)
    (latched : p.latched = q.latched) : p = q := by
  obtain ⟨_, heldP, _⟩ := p
  obtain ⟨_, heldQ, _⟩ := q
  cases keymap
  cases latched
  have same : heldP = heldQ := Vector.ext fun i small => Bool.eq_iff_iff.2 (held ⟨i, small⟩)
  rw [same]

theorem releaseAll_append (p : Keypad) (earlier later : List Char) :
    p.releaseAll (earlier ++ later) = (p.releaseAll earlier).releaseAll later :=
  List.foldl_append

/-- Neither the order of releases nor a repetition is of account. -/
theorem releaseAll_congr (p : Keypad) {keys others : List Char}
    (same : ∀ key, key ∈ keys ↔ key ∈ others) : p.releaseAll keys = p.releaseAll others := by
  refine eq_of_held ?_ ?_ ?_
  · rw [keymap_releaseAll, keymap_releaseAll]
  · intro id
    rw [held_releaseAll, held_releaseAll, same]
  · refine Option.ext fun id => ?_
    rw [latched_releaseAll, latched_releaseAll]
    simp only [same]

end Keypad

/-! ## Tables with keys taken out -/

namespace KeyTracker

/-- The table without the given keys. -/
def without (t : KeyTracker) (keys : List Char) : KeyTracker where
  hold := t.hold
  seen := t.seen.filter fun entry => entry.1 ∉ keys
  keys_nodup := t.keys_nodup.sublist (List.filter_sublist.map _)

variable (t : KeyTracker)

/-- A tracker is known by its hold time and its table. -/
theorem eq_of_seen {t u : KeyTracker} (hold : t.hold = u.hold) (seen : t.seen = u.seen) :
    t = u := by
  obtain ⟨_, _, _⟩ := t
  obtain ⟨_, _, _⟩ := u
  cases hold
  cases seen
  rfl

theorem without_nil : t.without [] = t :=
  eq_of_seen rfl (List.filter_eq_self.2 fun _ _ => by simp)

theorem without_append (earlier later : List Char) :
    t.without (earlier ++ later) = (t.without earlier).without later := by
  refine eq_of_seen rfl ?_
  simp only [without, List.filter_filter]
  refine List.filter_congr fun entry _ => ?_
  rw [Bool.eq_iff_iff]
  simp [and_comm]

theorem without_congr {keys others : List Char} (same : ∀ key, key ∈ keys ↔ key ∈ others) :
    t.without keys = t.without others := by
  refine eq_of_seen rfl ?_
  simp only [without, same]

/-- An entry of the table has expired exactly if its key has, because there is no other
entry for the key. -/
theorem mem_expiredKeys_of_mem {t : KeyTracker} {entry : Char × Nat} (listed : entry ∈ t.seen)
    (now : Nat) : entry.1 ∈ t.expiredKeys now ↔ t.hasExpired now entry = true := by
  obtain ⟨key, time⟩ := entry
  have seen : t.seenAt? key = some time := seenAt?_eq_some.2 listed
  simp only [mem_expiredKeys, seen, Option.some.injEq, exists_eq_left', hasExpired,
    decide_eq_true_eq]

/-- What has expired is taken out by its keys. -/
theorem dropExpired_eq_without (now : Nat) : t.dropExpired now = t.without (t.expiredKeys now) := by
  refine eq_of_seen rfl (List.filter_congr fun entry listed => ?_)
  rw [decide_not, Bool.eq_iff_iff]
  simp [mem_expiredKeys_of_mem listed]

/-- What is left when the expired keys are gone expires by its own times. -/
theorem mem_expiredKeys_dropExpired {t : KeyTracker} {key : Char} {earlier now : Nat} :
    key ∈ (t.dropExpired earlier).expiredKeys now
      ↔ key ∈ t.expiredKeys now ∧ key ∉ t.expiredKeys earlier := by
  simp only [mem_expiredKeys, seenAt?_dropExpired]
  constructor
  · rintro ⟨time, ⟨seen, young⟩, late⟩
    refine ⟨⟨time, seen, late⟩, ?_⟩
    rintro ⟨other, again, old⟩
    rw [seen] at again
    cases again
    exact Nat.not_le.2 young old
  · rintro ⟨⟨time, seen, late⟩, kept⟩
    exact ⟨time, ⟨seen, Nat.not_le.1 fun old => kept ⟨time, seen, old⟩⟩, late⟩

/-- What has expired stays expired. -/
theorem expiredKeys_mono {t : KeyTracker} {key : Char} {earlier now : Nat} (le : earlier ≤ now)
    (expired : key ∈ t.expiredKeys earlier) : key ∈ t.expiredKeys now := by
  obtain ⟨time, seen, old⟩ := mem_expiredKeys.1 expired
  exact mem_expiredKeys.2 ⟨time, seen, old.trans (Nat.sub_le_sub_right le time)⟩

end KeyTracker

namespace Tracking

/-! ## Letting go -/

/-- Some keys leave the table and go up. -/
def letGo (s : Tracking) (keys : List Char) : Tracking :=
  ⟨s.tracker.without keys, s.keypad.releaseAll keys⟩

variable (s : Tracking)

theorem letGo_nil : s.letGo [] = s := by
  rw [letGo, KeyTracker.without_nil]
  rfl

theorem letGo_append (earlier later : List Char) :
    s.letGo (earlier ++ later) = (s.letGo earlier).letGo later := by
  rw [letGo, KeyTracker.without_append, Keypad.releaseAll_append]
  rfl

/-- Only the set of the keys is of account. -/
theorem letGo_congr {keys others : List Char} (same : ∀ key, key ∈ keys ↔ key ∈ others) :
    s.letGo keys = s.letGo others := by
  rw [letGo, KeyTracker.without_congr _ same, Keypad.releaseAll_congr _ same]
  rfl

/-- A release lets go of the keys that have expired. -/
theorem expire_eq_letGo (now : Nat) :
    s.perform (.expire now) = s.letGo (s.tracker.expiredKeys now) := by
  rw [perform_expire, KeyTracker.dropExpired_eq_without]
  rfl

/-- A release is absorbed by a later one. -/
theorem expire_expire {earlier now : Nat} (le : earlier ≤ now) :
    (s.perform (.expire earlier)).perform (.expire now) = s.perform (.expire now) := by
  have rest : (s.perform (.expire earlier)).tracker = s.tracker.dropExpired earlier := rfl
  rw [expire_eq_letGo _ now, rest, expire_eq_letGo s earlier, ← letGo_append,
    expire_eq_letGo s now]
  refine s.letGo_congr fun key => ?_
  rw [List.mem_append, KeyTracker.mem_expiredKeys_dropExpired]
  constructor
  · rintro (old | ⟨late, _⟩)
    · exact KeyTracker.expiredKeys_mono le old
    · exact late
  · intro late
    by_cases old : key ∈ s.tracker.expiredKeys earlier
    · exact .inl old
    · exact .inr ⟨late, old⟩

/-! ## Entry by entry -/

/-- One entry of the table is looked at.  If it has expired, its key is let go of. -/
def visit (now : Nat) (s : Tracking) (entry : Char × Nat) : Tracking :=
  if s.tracker.hasExpired now entry then s.letGo [entry.1] else s

/-- Entries are looked at one after another. -/
def visitAll (s : Tracking) (now : Nat) (order : List (Char × Nat)) : Tracking :=
  order.foldl (visit now) s

theorem visitAll_eq_letGo (now : Nat) (order : List (Char × Nat)) :
    s.visitAll now order
      = s.letGo ((order.filter (s.tracker.hasExpired now)).map Prod.fst) := by
  induction order generalizing s with
  | nil => exact s.letGo_nil.symm
  | cons entry rest ih =>
    show (visit now s entry).visitAll now rest = _
    rw [ih]
    -- looking at an entry does not change the hold time, and so not what has expired
    have same : (visit now s entry).tracker.hasExpired now = s.tracker.hasExpired now := by
      unfold visit
      split
      · rfl
      · rfl
    rw [same, List.filter_cons, visit]
    split
    · rw [← letGo_append]
      rfl
    · rfl

/-- Whatever the order in which all entries are looked at, this is the release. -/
theorem visitAll_of_perm {now : Nat} {order : List (Char × Nat)}
    (all : order.Perm s.tracker.seen) : s.visitAll now order = s.perform (.expire now) := by
  rw [visitAll_eq_letGo, expire_eq_letGo]
  refine s.letGo_congr fun key => ?_
  exact ((all.filter _).map _).mem_iff

/-! ## What a release does -/

/-- The order of the table is of no account. -/
theorem expire_of_perm {other : Tracking} (hold : other.tracker.hold = s.tracker.hold)
    (reordered : other.tracker.seen.Perm s.tracker.seen) (keypad : other.keypad = s.keypad)
    (now : Nat) :
    (other.perform (.expire now)).tracker.seen.Perm (s.perform (.expire now)).tracker.seen
      ∧ (other.perform (.expire now)).keypad = (s.perform (.expire now)).keypad := by
  have same : other.tracker.hasExpired now = s.tracker.hasExpired now := by
    funext entry
    rw [KeyTracker.hasExpired, KeyTracker.hasExpired, hold]
  rw [perform_expire, perform_expire, keypad]
  constructor
  · simp only [KeyTracker.dropExpired, same]
    exact reordered.filter _
  · refine s.keypad.releaseAll_congr fun key => ?_
    rw [KeyTracker.expiredKeys, KeyTracker.expiredKeys, same]
    exact ((reordered.filter _).map _).mem_iff

/-- **Expiry knows no order and is absorbed.**  Take any table and any keypad.  Entries
may be looked at in any order, with the same result, and a table in another order comes
to the same table and the same keypad.  A release at an earlier time makes no difference
to the release at a later one.  The table keeps exactly the entries that were renewed
less than the hold time ago, where a time ahead counts as now.  A key that is held stays
so unless it is dropped, and no other is held.  What is latched stays so unless a bound
key is dropped, and then nothing is.  Hold time and bindings stay. -/
theorem expiry_absorbs (s : Tracking) (now : Nat) :
    (∀ order, order.Perm s.tracker.seen → s.visitAll now order = s.perform (.expire now))
      ∧ (∀ other : Tracking, other.tracker.hold = s.tracker.hold →
          other.tracker.seen.Perm s.tracker.seen → other.keypad = s.keypad →
        (other.perform (.expire now)).tracker.seen.Perm (s.perform (.expire now)).tracker.seen
          ∧ (other.perform (.expire now)).keypad = (s.perform (.expire now)).keypad)
      ∧ (∀ earlier ≤ now,
        (s.perform (.expire earlier)).perform (.expire now) = s.perform (.expire now))
      ∧ (∀ key time, (s.perform (.expire now)).seenAt? key = some time
        ↔ s.seenAt? key = some time ∧ now - time < s.tracker.hold)
      ∧ (∀ id, (s.perform (.expire now)).keypad.held.get id = true
        ↔ s.keypad.held.get id = true ∧ ¬ s.Drops (.expire now) (s.keypad.keymap.keyOf id))
      ∧ (∀ id, (s.perform (.expire now)).keypad.latched = some id
        ↔ s.keypad.latched = some id
          ∧ ∀ key, s.Drops (.expire now) key → s.keypad.keymap.id? key = none)
      ∧ (s.perform (.expire now)).tracker.hold = s.tracker.hold
      ∧ (s.perform (.expire now)).keypad.keymap = s.keypad.keymap := by
  refine ⟨?_, ?_, ?_, ?_, s.held_expire now, s.latched_expire now, rfl, ?_⟩
  · intro order all
    exact s.visitAll_of_perm all
  · intro other hold reordered keypad
    exact s.expire_of_perm hold reordered keypad now
  · intro earlier le
    exact s.expire_expire le
  · intro key time
    exact KeyTracker.seenAt?_dropExpired
  · exact s.keypad.keymap_releaseAll _

/-- Four keys in the table.  The second is not bound, and the last was seen at a time
that lies ahead. -/
def crowded : Tracking where
  tracker := { hold := 100, seen := [('w', 0), ('p', 20), ('e', 100), ('q', 500)],
               keys_nodup := by decide }
  keypad := (((({ keymap := Keymap.conventional } : Keypad).press 'w').2.press 'e').2.press 'q').2

/-- The first two leave the table, from either end of it and in one go or in two.  One of
them goes up, which empties the latch. -/
theorem expiry_absorbs_crowded :
    crowded.visitAll 150 crowded.tracker.seen.reverse = crowded.perform (.expire 150)
      ∧ (crowded.perform (.expire 110)).perform (.expire 150) = crowded.perform (.expire 150)
      ∧ (crowded.perform (.expire 150)).seenAt? 'q' = some 500
      ∧ ¬ (crowded.perform (.expire 150)).keypad.held.get 5 = true
      ∧ (crowded.perform (.expire 150)).keypad.held.get 6 = true
      ∧ ∀ id, (crowded.perform (.expire 150)).keypad.latched ≠ some id := by
  obtain ⟨visited, _, absorbed, seen, held, latched, _, _⟩ := expiry_absorbs crowded 150
  have gone : crowded.Drops (.expire 150) 'w' := ⟨0, by decide, by decide⟩
  have stays : ¬ crowded.Drops (.expire 150) 'e' := by
    rintro ⟨time, last, old⟩
    cases (show crowded.seenAt? 'e' = some 100 by decide).symm.trans last
    exact absurd old (by decide)
  have keyW : Keymap.conventional.keyOf 5 = 'w' := by decide
  have keyE : Keymap.conventional.keyOf 6 = 'e' := by decide
  refine ⟨visited _ (List.reverse_perm _), absorbed 110 (by decide), ?_, ?_, ?_, ?_⟩
  · exact (seen 'q' 500).2 ⟨by decide, by decide⟩
  · intro stillHeld
    refine ((held 5).1 stillHeld).2 ?_
    show crowded.Drops _ (Keymap.conventional.keyOf 5)
    rwa [keyW]
  · refine (held 6).2 ⟨by decide, ?_⟩
    show ¬ crowded.Drops _ (Keymap.conventional.keyOf 6)
    rwa [keyE]
  · intro id stillLatched
    have bound : crowded.keypad.keymap.id? 'w' = some 5 := by decide
    rw [((latched id).1 stillLatched).2 'w' gone] at bound
    cases bound

end Tracking

end Chip8Console
