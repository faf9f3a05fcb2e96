import BeidarPos.LanServer

/-! The delay put on repeated connection attempts of one address. The table behind it is
locked for each attempt, so the attempts come one after another; its clock is the
monotonic one, and each attempt brings the time passed since the attempt before it. -/
namespace BeidarPos

open Relational Machine

/-- Times and durations are in nanoseconds. -/
structure ConnectRateEntry where
  ip : String
  count : Int
  expires : Nat

def second : Int := 10^9

/-- One minute. -/
def connectRateWindow : Nat := 60 * 10^9

structure ConnectRates where
  now : Nat
  connectRateLimits : Table ConnectRateEntry.ip

structure ConnectAttempt where
  after : Nat
  remoteAddr : String

/-- `1 << n` of a 64-bit integer: bits shifted out are lost, a negative count panics. -/
def shiftedOne (n : Int) : Option Int :=
  if n < 0 then none else some (Word.int64.wrap (2 ^ n.toNat))

/-- Exponential delay: 1s, 2s, 4s, 8s, up to 15s. -/
def tarpitDelay (count : Int) : Option Int :=
  (shiftedOne (Word.int64.sub count 1)).map fun delaySeconds =>
    Word.int64.mul (if 15 < delaySeconds then 15 else delaySeconds) second

namespace ConnectRates

def opened (now : Nat) : ConnectRates := ⟨now, Table.empty⟩

/-- The clean-up of expired entries, made when there are more than a hundred. -/
def cleanup (r : ConnectRates) : Table ConnectRateEntry.ip :=
  if 100 < r.connectRateLimits.rows.length then r.connectRateLimits.filter (fun entry => r.now ≤ entry.expires)
  else r.connectRateLimits

/-- The delay of an attempt, nothing where the code panics, and the table after it. -/
def getConnectTarpitDelay (remoteAddr : String) (r : ConnectRates) : Option Int × ConnectRates :=
  let ip := hostOf remoteAddr
  let fresh := (some 0, ⟨r.now, r.cleanup.set ⟨ip, 1, r.now + connectRateWindow⟩⟩)
  match r.cleanup.find? ip with
  | none => fresh
  | some entry =>
    if entry.expires < r.now then fresh
    else
      let count := Word.int64.add entry.count 1
      (tarpitDelay count, ⟨r.now, r.cleanup.set { entry with count := count }⟩)

def connect (r : ConnectRates) (a : ConnectAttempt) : Option Int × ConnectRates :=
  { r with now := r.now + a.after }.getConnectTarpitDelay a.remoteAddr

def run (r : ConnectRates) (attempts : List ConnectAttempt) : ConnectRates :=
  attempts.foldl (fun r a => (r.connect a).2) r

end ConnectRates

/-- Where an attempt stands among those of its address: when the window it falls in was
opened, and its number there. -/
structure Place where
  opened : Nat
  number : Nat

def Place.next (now : Nat) : Option Place → Place
  | none => ⟨now, 1⟩
  | some p => if p.opened + connectRateWindow < now then ⟨now, 1⟩ else ⟨p.opened, p.number + 1⟩

/-- The clock and the place of the latest attempt of one address, by that address's
attempts alone. -/
def follow (ip : String) (at' : Nat × Option Place) (a : ConnectAttempt) : Nat × Option Place :=
  let now := at'.1 + a.after
  (now, if hostOf a.remoteAddr = ip then some (Place.next now at'.2) else at'.2)

/-- The place of an attempt made after the others, the table having been made at `start`. -/
def placeAfter (start : Nat) (attempts : List ConnectAttempt) (last : ConnectAttempt) : Place :=
  let latest := attempts.foldl (follow (hostOf last.remoteAddr)) (start, none)
  Place.next (latest.1 + last.after) latest.2

/-- What the table holds of an address, against its latest place: the wrapped count of an
entry that is there, and an entry that is gone only once its window is past. -/
def Tracks (limits : Table ConnectRateEntry.ip) (now : Nat) (ip : String) : Option Place → Prop
  | none => limits.find? ip = none
  | some p =>
    limits.find? ip = some ⟨ip, Word.int64.wrap p.number, p.opened + connectRateWindow⟩ ∨
      limits.find? ip = none ∧ p.opened + connectRateWindow < now

variable {limits : Table ConnectRateEntry.ip} {now : Nat} {ip : String} {latest : Option Place}

theorem Tracks.later {later : Nat} (tracks : Tracks limits now ip latest) (passed : now ≤ later) :
    Tracks limits later ip latest := by
  cases latest with
  | none => exact tracks
  | some p =>
    rcases tracks with there | ⟨gone, past⟩
    · exact .inl there
    · exact .inr ⟨gone, lt_of_lt_of_le past passed⟩

/-- Only entries of a window that is past are cleaned up. -/
theorem Tracks.cleanup {r : ConnectRates} (tracks : Tracks r.connectRateLimits r.now ip latest) :
    Tracks r.cleanup r.now ip latest := by
  unfold ConnectRates.cleanup
  split
  · cases latest with
    | none =>
      have gone : r.connectRateLimits.find? ip = none := tracks
      simp [Tracks, Table.find?_filter, gone]
    | some p =>
      rcases tracks with there | ⟨gone, past⟩
      · rcases Nat.lt_or_ge (p.opened + connectRateWindow) r.now with past | current
        · refine .inr ⟨?_, past⟩
          rw [Table.find?_filter, there, Option.filter_some, if_neg (by simpa using past)]
        · refine .inl ?_
          rw [Table.find?_filter, there, Option.filter_some, if_pos (by simpa using current)]
      · exact .inr ⟨by simp [Table.find?_filter, gone], past⟩
  · exact tracks

/-- Another address's entry is left alone. -/
theorem Tracks.set {entry : ConnectRateEntry} (tracks : Tracks limits now ip latest) (other : ip ≠ entry.ip) :
    Tracks (limits.set entry) now ip latest := by
  have kept : (limits.set entry).find? ip = limits.find? ip := by rw [Table.find?_set, if_neg other]
  cases latest with
  | none => exact kept.trans tracks
  | some p => rwa [Tracks, kept]

theorem wrap_succ (n : Nat) : Word.int64.add (Word.int64.wrap n) 1 = Word.int64.wrap (n + 1 : Nat) := by
  rw [Word.int64_add_wrap, Nat.cast_succ]

/-- An attempt either opens a window for its address or counts one more in the open one. -/
theorem getConnectTarpitDelay_does (r : ConnectRates) (remoteAddr : String) :
    ((∀ entry, r.cleanup.find? (hostOf remoteAddr) = some entry → entry.expires < r.now) ∧
        r.getConnectTarpitDelay remoteAddr =
          (some 0, ⟨r.now, r.cleanup.set ⟨hostOf remoteAddr, 1, r.now + connectRateWindow⟩⟩)) ∨
      ∃ entry, r.cleanup.find? (hostOf remoteAddr) = some entry ∧ r.now ≤ entry.expires ∧
        r.getConnectTarpitDelay remoteAddr =
          (tarpitDelay (Word.int64.add entry.count 1),
            ⟨r.now, r.cleanup.set { entry with count := Word.int64.add entry.count 1 }⟩) := by
  cases found : r.cleanup.find? (hostOf remoteAddr) with
  | none =>
    refine .inl ⟨fun _ some => by simp at some, ?_⟩
    simp only [ConnectRates.getConnectTarpitDelay, found]
  | some entry =>
    rcases Nat.lt_or_ge entry.expires r.now with past | current
    · refine .inl ⟨fun other same => Option.some.inj same ▸ past, ?_⟩
      simp only [ConnectRates.getConnectTarpitDelay, found, if_pos past]
    · refine .inr ⟨entry, rfl, current, ?_⟩
      simp only [ConnectRates.getConnectTarpitDelay, found, if_neg (Nat.not_lt.mpr current)]

theorem getConnectTarpitDelay_now (r : ConnectRates) (remoteAddr : String) :
    (r.getConnectTarpitDelay remoteAddr).2.now = r.now := by
  rcases getConnectTarpitDelay_does r remoteAddr with ⟨-, opens⟩ | ⟨entry, -, -, counts⟩
  · rw [opens]
  · rw [counts]

/-- What an attempt does to the entry of its own address. -/
theorem getConnectTarpitDelay_own {r : ConnectRates} {remoteAddr : String}
    (tracks : Tracks r.connectRateLimits r.now (hostOf remoteAddr) latest) :
    Tracks (r.getConnectTarpitDelay remoteAddr).2.connectRateLimits r.now (hostOf remoteAddr)
        (some (Place.next r.now latest)) ∧
      (2 ≤ (Place.next r.now latest).number →
        (r.getConnectTarpitDelay remoteAddr).1 = tarpitDelay (Word.int64.wrap (Place.next r.now latest).number)) := by
  have clean := tracks.cleanup
  have one : Word.int64.wrap (1 : Nat) = 1 := by decide
  have stored {entry : ConnectRateEntry} (named : entry.ip = hostOf remoteAddr) :
      (r.cleanup.set entry).find? (hostOf remoteAddr) = some entry := by
    rw [Table.find?_set, if_pos named.symm]
  rcases getConnectTarpitDelay_does r remoteAddr with ⟨past, opens⟩ | ⟨entry, found, current, counts⟩
  · have first : Place.next r.now latest = ⟨r.now, 1⟩ := by
      rcases latest with _ | p
      · rfl
      · rcases clean with there | ⟨-, passed⟩
        · exact if_pos (past _ there)
        · exact if_pos passed
    rw [opens, first]
    refine ⟨.inl ?_, fun two => absurd two (Nat.not_succ_le_self 1)⟩
    rw [one]
    exact stored rfl
  · rcases latest with _ | p
    · have gone : r.cleanup.find? (hostOf remoteAddr) = none := clean
      rw [gone] at found
      contradiction
    · rcases clean with there | ⟨gone, -⟩
      · rw [there] at found
        obtain rfl := Option.some.inj found
        have again : Place.next r.now (some p) = ⟨p.opened, p.number + 1⟩ := if_neg (Nat.not_lt.mpr current)
        simp only [counts, again, wrap_succ]
        exact ⟨.inl (stored rfl), fun _ => trivial⟩
      · rw [gone] at found
        contradiction

theorem getConnectTarpitDelay_other {r : ConnectRates} {remoteAddr : String}
    (tracks : Tracks r.connectRateLimits r.now ip latest) (other : hostOf remoteAddr ≠ ip) :
    Tracks (r.getConnectTarpitDelay remoteAddr).2.connectRateLimits r.now ip latest := by
  have clean := tracks.cleanup
  rcases getConnectTarpitDelay_does r remoteAddr with ⟨-, opens⟩ | ⟨entry, found, -, counts⟩
  · rw [opens]
    exact clean.set other.symm
  · have named : entry.ip = hostOf remoteAddr := Table.find?_key found
    rw [counts]
    exact clean.set (named ▸ other.symm)

/-- Through any run the table tracks every address. -/
theorem run_tracks (r : ConnectRates) (attempts : List ConnectAttempt)
    (tracks : Tracks r.connectRateLimits r.now ip latest) :
    (attempts.foldl (follow ip) (r.now, latest)).1 = (r.run attempts).now ∧
      Tracks (r.run attempts).connectRateLimits (r.run attempts).now ip
        (attempts.foldl (follow ip) (r.now, latest)).2 := by
  induction attempts generalizing r latest with
  | nil => exact ⟨rfl, tracks⟩
  | cons a rest ih =>
    have clock : (r.connect a).2.now = r.now + a.after := getConnectTarpitDelay_now _ _
    have aged := tracks.later (Nat.le_add_right r.now a.after)
    have moved : Tracks (r.connect a).2.connectRateLimits (r.now + a.after) ip (follow ip (r.now, latest) a).2 := by
      by_cases same : hostOf a.remoteAddr = ip
      · subst same
        rw [follow, if_pos rfl]
        exact (getConnectTarpitDelay_own (r := ⟨r.now + a.after, r.connectRateLimits⟩) aged).1
      · rw [follow, if_neg same]
        exact getConnectTarpitDelay_other (r := ⟨r.now + a.after, r.connectRateLimits⟩) aged same
    have next := ih (r.connect a).2 (clock.symm ▸ moved)
    rw [clock] at next
    exact next

section Arithmetic

/-- The n-th attempt of a window waits as long as it should. -/
def expectedDelay (n : Nat) : Int := min (2 ^ (n - 1)) 15 * second

theorem shiftedOne_small {m : Nat} (small : m ≤ 62) : shiftedOne m = some (2 ^ m) := by
  have bound : (2 : Int) ^ m ≤ 2 ^ 62 := pow_le_pow_right₀ (by norm_num) small
  have fits : Word.int64.fits ((2 : Int) ^ m) := by
    have positive : (0 : Int) < 2 ^ m := by positivity
    constructor <;> omega
  rw [shiftedOne, if_neg (by omega), Int.toNat_natCast, Word.int64.wrap_of_fits _ fits]

theorem wrap_multiple (k : Int) : Word.int64.wrap (k * 2^64) = 0 := by
  have divides : ((2^64 : Nat) : Int) ∣ k * 2^64 := ⟨k, by push_cast; ring⟩
  exact Int.bmod_eq_zero_of_dvd divides

/-- From 63 on nothing of the shifted bit is left of a positive number. -/
theorem shiftedOne_large {n : Int} (large : 63 ≤ n) :
    shiftedOne n = some (-2^63) ∨ shiftedOne n = some 0 := by
  obtain ⟨m, rfl⟩ : ∃ m : Nat, n = 63 + m := ⟨(n - 63).toNat, by omega⟩
  have power : ((63 : Int) + m).toNat = 63 + m := by omega
  rw [shiftedOne, if_neg (by omega), power]
  rcases m with _ | m
  · exact .inl (by decide)
  · refine .inr (congrArg some ?_)
    have multiple : (2 : Int) ^ (63 + (m + 1)) = 2 ^ m * 2 ^ 64 := by ring
    rw [multiple, wrap_multiple]

theorem tarpitDelay_small {m : Nat} (first : 1 ≤ m) (small : m ≤ 63) : tarpitDelay m = some (expectedDelay m) := by
  obtain ⟨k, rfl⟩ : ∃ k, m = k + 1 := ⟨m - 1, by omega⟩
  have less : Word.int64.sub ((k + 1 : Nat) : Int) 1 = k := by
    have difference : (((k + 1 : Nat) : Int)) - 1 = k := by omega
    rw [Word.sub, difference]
    exact Word.int64.wrap_of_fits _ ⟨by omega, by omega⟩
  have positive : (0 : Int) < 2 ^ k := by positivity
  have capped : (if 15 < (2 : Int) ^ k then 15 else (2 : Int) ^ k) = min (2 ^ k) 15 := by
    split <;> omega
  have fits : Word.int64.fits (min ((2 : Int) ^ k) 15 * second) := by
    constructor <;> simp only [second] <;> omega
  rw [tarpitDelay, less, shiftedOne_small (by omega), Option.map_some, capped, Word.mul,
    Word.int64.wrap_of_fits _ fits]
  rfl

theorem tarpitDelay_large {count : Int} (large : 63 ≤ Word.int64.sub count 1) : tarpitDelay count = some 0 := by
  rcases shiftedOne_large large with shifted | shifted <;> rw [tarpitDelay, shifted] <;> decide

theorem tarpitDelay_negative {count : Int} (negative : Word.int64.sub count 1 < 0) : tarpitDelay count = none := by
  rw [tarpitDelay, shiftedOne, if_pos negative]
  rfl

/-- What is left of a number in 64 bits. -/
theorem wrap_natCast (n : Nat) :
    Word.int64.wrap n = if n % 2^64 < 2^63 then ((n % 2^64 : Nat) : Int) else ((n % 2^64 : Nat) : Int) - 2^64 := by
  simp only [Word.int64, Int.bmod_def]
  push_cast
  split <;> split <;> omega

theorem expectedDelay_pos (n : Nat) : 0 < expectedDelay n := by
  have positive : (0 : Int) < 2 ^ (n - 1) := by positivity
  simp only [expectedDelay, second]
  omega

theorem expectedDelay_late {n : Nat} (late : 5 ≤ n) : expectedDelay n = 15 * second := by
  have power : (2 : Int) ^ 4 ≤ 2 ^ (n - 1) := pow_le_pow_right₀ (by norm_num) (by omega)
  rw [expectedDelay, min_eq_right (by omega)]

theorem expectedDelay_early {n : Nat} (early : n ≤ 4) : expectedDelay n < 15 * second := by
  have power : (2 : Int) ^ (n - 1) ≤ 2 ^ 3 := pow_le_pow_right₀ (by norm_num) (by omega)
  simp only [expectedDelay, second]
  omega

theorem expectedDelay_mono {m n : Nat} (before : m ≤ n) : expectedDelay m ≤ expectedDelay n := by
  have power : (2 : Int) ^ (m - 1) ≤ 2 ^ (n - 1) := pow_le_pow_right₀ (by norm_num) (by omega)
  simp only [expectedDelay, second]
  omega

/-- The 64-bit counter still has the bit to shift: among the first 63 attempts, or as far
into a later round of the counter, where the cap is reached anyway. -/
def Timely (n : Nat) : Prop := n ≤ 63 ∨ 5 ≤ n % 2^64 ∧ n % 2^64 ≤ 63

instance (n : Nat) : Decidable (Timely n) := inferInstanceAs (Decidable (_ ∨ _))

theorem tarpitDelay_wrap {n : Nat} (two : 2 ≤ n) :
    tarpitDelay (Word.int64.wrap n) = some (expectedDelay n) ↔ Timely n := by
  obtain ⟨d, rfl⟩ : ∃ d, n = d + 1 := ⟨n - 1, by omega⟩
  have less : Word.int64.sub (Word.int64.wrap (d + 1 : Nat)) 1 = Word.int64.wrap d := by
    have difference : (((d + 1 : Nat) : Int)) + -1 = d := by omega
    rw [Word.sub, Int.sub_eq_add_neg, ← difference]
    exact Word.int64_add_wrap _ _
  have left := wrap_natCast d
  have positive := expectedDelay_pos (d + 1)
  by_cases small : d % 2^64 ≤ 62
  · have count : Word.int64.wrap (d + 1 : Nat) = ((d + 1) % 2^64 : Nat) := by
      rw [wrap_natCast, if_pos (by omega)]
    rw [count, tarpitDelay_small (by omega) (by omega), Option.some_inj]
    rcases Nat.lt_or_ge d 63 with early | late
    · have whole : (d + 1) % 2^64 = d + 1 := Nat.mod_eq_of_lt (by omega)
      rw [whole]
      exact iff_of_true rfl (.inl early)
    · rw [expectedDelay_late (n := d + 1) (by omega)]
      rcases Nat.lt_or_ge ((d + 1) % 2^64) 5 with below | above
      · have shorter := expectedDelay_early (Nat.le_of_lt_succ below)
        refine iff_of_false (by omega) ?_
        rintro (front | ⟨five, -⟩) <;> omega
      · exact iff_of_true (expectedDelay_late above) (.inr ⟨above, by omega⟩)
  · have untimely : ¬ Timely (d + 1) := by
      rintro (front | ⟨five, last⟩) <;> omega
    refine iff_of_false ?_ untimely
    by_cases half : d % 2^64 < 2^63
    · rw [if_pos half] at left
      rw [tarpitDelay_large (by rw [less, left]; omega), Option.some_inj]
      omega
    · rw [if_neg half] at left
      rw [tarpitDelay_negative (by rw [less, left]; omega)]
      simp

end Arithmetic

namespace Place

/-- A later place of the same address: in the same window it has no smaller number. -/
def Before (p q : Place) : Prop := p.opened ≤ q.opened ∧ (q.opened = p.opened → p.number ≤ q.number)

theorem Before.next {p q : Place} (before : p.Before q) (now : Nat) : p.Before (Place.next now (some q)) := by
  obtain ⟨opened, number⟩ := before
  rcases Nat.lt_or_ge (q.opened + connectRateWindow) now with past | current
  · have anew : Place.next now (some q) = ⟨now, 1⟩ := if_pos past
    rw [anew]
    exact ⟨by dsimp only; omega, fun same => absurd same (by dsimp only; omega)⟩
  · have again : Place.next now (some q) = ⟨q.opened, q.number + 1⟩ := if_neg (Nat.not_lt.mpr current)
    rw [again]
    exact ⟨opened, fun same => Nat.le_succ_of_le (number same)⟩

theorem follow_before (ip : String) {p q : Place} (before : p.Before q) (attempts : List ConnectAttempt) (now : Nat) :
    ∃ later, (attempts.foldl (follow ip) (now, some q)).2 = some later ∧ p.Before later := by
  induction attempts generalizing q now with
  | nil => exact ⟨q, rfl, before⟩
  | cons a rest ih =>
    rw [List.foldl_cons, follow]
    split
    · exact ih (before.next _) _
    · exact ih before _

end Place

/-- Between an attempt and a later one of the same address there may be any others. -/
theorem placeAfter_before (start : Nat) (attempts between : List ConnectAttempt) {earlier last : ConnectAttempt}
    (same : hostOf earlier.remoteAddr = hostOf last.remoteAddr) :
    (placeAfter start attempts earlier).Before (placeAfter start (attempts ++ earlier :: between) last) := by
  have whole : (attempts ++ earlier :: between).foldl (follow (hostOf last.remoteAddr)) (start, none) =
      between.foldl (follow (hostOf last.remoteAddr))
        ((attempts.foldl (follow (hostOf last.remoteAddr)) (start, none)).1 + earlier.after,
          some (placeAfter start attempts earlier)) := by
    rw [List.foldl_append, List.foldl_cons, placeAfter, same, follow, if_pos same]
  have start' : (placeAfter start attempts earlier).Before (placeAfter start attempts earlier) :=
    ⟨le_rfl, fun _ => le_rfl⟩
  obtain ⟨latest, found, before⟩ := Place.follow_before (hostOf last.remoteAddr) start' between
    ((attempts.foldl (follow (hostOf last.remoteAddr)) (start, none)).1 + earlier.after)
  have place : placeAfter start (attempts ++ earlier :: between) last = Place.next
      (((attempts ++ earlier :: between).foldl (follow (hostOf last.remoteAddr)) (start, none)).1 + last.after)
      (some latest) := by
    rw [placeAfter, whole, found]
  rw [place]
  exact before.next _

/-- The delay of a repeated attempt is the one of the wrapped counter. -/
theorem connect_tracked (start : Nat) (attempts : List ConnectAttempt) (last : ConnectAttempt)
    (repeated : 2 ≤ (placeAfter start attempts last).number) :
    (((ConnectRates.opened start).run attempts).connect last).1 =
      tarpitDelay (Word.int64.wrap (placeAfter start attempts last).number) := by
  have empty : Tracks (ConnectRates.opened start).connectRateLimits start (hostOf last.remoteAddr) none := rfl
  obtain ⟨clock, tracks⟩ := run_tracks (ConnectRates.opened start) attempts empty
  have aged := tracks.later (Nat.le_add_right _ last.after)
  have place : placeAfter start attempts last =
      Place.next (((ConnectRates.opened start).run attempts).now + last.after)
        (attempts.foldl (follow (hostOf last.remoteAddr)) (start, none)).2 := congrArg (Place.next · _) (congrArg (· + _) clock)
  rw [place] at repeated ⊢
  exact (getConnectTarpitDelay_own (r := ⟨_, ((ConnectRates.opened start).run attempts).connectRateLimits⟩) aged).2
    repeated

/-- The n-th attempt of an address within a window is delayed as the tarpit says exactly
while the counter is timely, and up to then no later attempt of the window waits less. -/
theorem connect_delay (start : Nat) (attempts : List ConnectAttempt) (last : ConnectAttempt)
    (repeated : 2 ≤ (placeAfter start attempts last).number) :
    ((((ConnectRates.opened start).run attempts).connect last).1 =
        some (expectedDelay (placeAfter start attempts last).number) ↔
      Timely (placeAfter start attempts last).number) ∧
    ∀ (between : List ConnectAttempt) (again : ConnectAttempt), hostOf last.remoteAddr = hostOf again.remoteAddr →
      (placeAfter start (attempts ++ last :: between) again).opened = (placeAfter start attempts last).opened →
      (placeAfter start (attempts ++ last :: between) again).number ≤ 63 →
      ∃ sooner later, (((ConnectRates.opened start).run attempts).connect last).1 = some sooner ∧
        (((ConnectRates.opened start).run (attempts ++ last :: between)).connect again).1 = some later ∧
        sooner ≤ later := by
  have delay := connect_tracked start attempts last repeated
  refine ⟨by rw [delay]; exact tarpitDelay_wrap repeated, fun between again same window early => ?_⟩
  have more := (placeAfter_before start attempts between same).2 window
  have again' := connect_tracked start (attempts ++ last :: between) again (repeated.trans more)
  refine ⟨_, _, delay.trans ((tarpitDelay_wrap repeated).mpr (.inl (more.trans early))),
    again'.trans ((tarpitDelay_wrap (repeated.trans more)).mpr (.inl early)), expectedDelay_mono more⟩

def knock : ConnectAttempt := ⟨0, "192.168.1.5:40000"⟩

theorem connect_delay_second :
    (((ConnectRates.opened 0).run [knock]).connect knock).1 =
      some (expectedDelay (placeAfter 0 [knock] knock).number) :=
  (connect_delay 0 [knock] knock (by decide +kernel)).1.mpr (by decide +kernel)

/-- The sixty-fourth attempt within a minute is let through at once. -/
theorem connect_delay_lost : ¬ ∀ (start : Nat) (attempts : List ConnectAttempt) (last : ConnectAttempt),
    2 ≤ (placeAfter start attempts last).number →
      (((ConnectRates.opened start).run attempts).connect last).1 =
        some (expectedDelay (placeAfter start attempts last).number) := by
  intro imposed
  have number : (placeAfter 0 (List.replicate 63 knock) knock).number = 64 := by decide +kernel
  have delay := imposed 0 (List.replicate 63 knock) knock (by rw [number]; omega)
  rw [connect_tracked 0 _ _ (by rw [number]; omega), number] at delay
  exact absurd ((tarpitDelay_wrap (by omega)).mp delay) (by decide)

end BeidarPos
