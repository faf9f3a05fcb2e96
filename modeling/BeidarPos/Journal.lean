import Mathlib.Algebra.BigOperators.Group.List.Basic
import Mathlib.Tactic

/-! Transactions that journal their writes. A transaction reads the state, may
fail, and otherwise reports a value, the writes it made in order, and the state
those writes lead to; that the journal replays to that state is part of the type.
Nothing here fixes the state, the writes or the errors. -/
namespace Journal

variable {σ ω ε α β γ : Type}

/-- The writes of a journal in order; the first one that fails fails the whole. -/
def replay (apply : ω → σ → Except ε σ) : List ω → σ → Except ε σ
  | [], s => .ok s
  | w :: ws, s =>
    match apply w s with
    | .error e => .error e
    | .ok s' => replay apply ws s'

theorem replay_cons {apply : ω → σ → Except ε σ} {w : ω} {ws : List ω} {s final : σ} :
    replay apply (w :: ws) s = .ok final ↔ ∃ next, apply w s = .ok next ∧ replay apply ws next = .ok final := by
  rw [replay]
  cases apply w s with
  | error e => simp
  | ok next => simp

/-- What every write of a journal keeps, the journal keeps. -/
theorem replay_keeps {apply : ω → σ → Except ε σ} {I : σ → Prop} {ws : List ω} {s final : σ}
    (h : replay apply ws s = .ok final) (holds : I s)
    (keeps : ∀ w ∈ ws, ∀ s next, I s → apply w s = .ok next → I next) : I final := by
  induction ws generalizing s with
  | nil => cases h; exact holds
  | cons w ws ih =>
    obtain ⟨next, applied, onward⟩ := replay_cons.mp h
    exact ih onward (keeps w (by simp) s next holds applied) fun v member => keeps v (by simp [member])

theorem replay_append {apply : ω → σ → Except ε σ} (front back : List ω) {s middle final : σ}
    (first : replay apply front s = .ok middle) (second : replay apply back middle = .ok final) :
    replay apply (front ++ back) s = .ok final := by
  induction front generalizing s with
  | nil => cases first; exact second
  | cons w ws ih =>
    obtain ⟨next, applied, onward⟩ := replay_cons.mp first
    exact replay_cons.mpr ⟨next, applied, ih onward⟩

/-- A transaction body. `replays` is carried by the value, so no body can change
the state in a way its journal does not show. -/
structure Tx (apply : ω → σ → Except ε σ) (α : Type) where
  run : σ → Except ε (α × List ω × σ)
  replays : ∀ s a ws final, run s = .ok (a, ws, final) → replay apply ws s = .ok final

variable {apply : ω → σ → Except ε σ}

/-- The transaction accepts `s` with value `a`, journal `ws` and final state. -/
def Does (x : Tx apply α) (s : σ) (a : α) (ws : List ω) (final : σ) : Prop :=
  x.run s = .ok (a, ws, final)

theorem Does.replays {x : Tx apply α} (h : Does x s a ws final) : replay apply ws s = .ok final :=
  x.replays _ _ _ _ h

namespace Tx

protected def pure (a : α) : Tx apply α where
  run := fun s => .ok (a, [], s)
  replays := by
    intro s b ws final h
    cases h
    rfl

protected def bind (x : Tx apply α) (f : α → Tx apply β) : Tx apply β where
  run := fun s =>
    match x.run s with
    | .error e => .error e
    | .ok (a, ws, middle) =>
      match (f a).run middle with
      | .error e => .error e
      | .ok (b, more, final) => .ok (b, ws ++ more, final)
  replays := by
    intro s b ws final h
    cases hx : x.run s with
    | error e => simp [hx] at h
    | ok r =>
      obtain ⟨a, front, middle⟩ := r
      cases hf : (f a).run middle with
      | error e => simp [hx, hf] at h
      | ok r =>
        obtain ⟨c, back, last⟩ := r
        simp only [hx, hf, Except.ok.injEq, Prod.mk.injEq] at h
        obtain ⟨rfl, rfl, rfl⟩ := h
        exact replay_append _ _ (x.replays _ _ _ _ hx) ((f a).replays _ _ _ _ hf)

instance : Monad (Tx apply) where
  pure := Tx.pure
  bind := Tx.bind

/-- Reads a view of the state. -/
def ask (f : σ → α) : Tx apply α where
  run := fun s => .ok (f s, [], s)
  replays := by
    intro s a ws final h
    cases h
    rfl

def fail (e : ε) : Tx apply α where
  run := fun _ => .error e
  replays := by
    intro s a ws final h
    cases h

def write (w : ω) : Tx apply Unit where
  run := fun s =>
    match apply w s with
    | .error e => .error e
    | .ok final => .ok ((), [w], final)
  replays := by
    intro s a ws final h
    cases ha : apply w s with
    | error e => simp [ha] at h
    | ok next =>
      simp only [ha, Except.ok.injEq, Prod.mk.injEq] at h
      obtain ⟨_, rfl, rfl⟩ := h
      simp [replay, ha]

/-- The same transaction reporting its errors through `f`. -/
def mapError (f : ε → ε) (x : Tx apply α) : Tx apply α where
  run := fun s =>
    match x.run s with
    | .error e => .error (f e)
    | .ok r => .ok r
  replays := by
    intro s a ws final h
    cases hx : x.run s with
    | error e => simp [hx] at h
    | ok r =>
      simp only [hx] at h
      cases h
      exact x.replays _ _ _ _ hx

/-- A guard: goes on when `p` holds and fails with `e` otherwise. -/
def ensure (p : Prop) [Decidable p] (e : ε) : Tx apply Unit :=
  if p then Tx.pure () else fail e

def require (o : Option α) (e : ε) : Tx apply α :=
  match o with
  | some a => Tx.pure a
  | none => fail e

def when (p : Prop) [Decidable p] (x : Tx apply Unit) : Tx apply Unit :=
  if p then x else Tx.pure ()

/-- The body once for each element, in order. -/
def each (f : β → Tx apply Unit) : List β → Tx apply Unit
  | [] => Tx.pure ()
  | b :: bs => Tx.bind (f b) fun _ => each f bs

/-- The body for each element in order, with a value passed along. -/
def foldEach (f : α → β → Tx apply α) : List β → α → Tx apply α
  | [], a => Tx.pure a
  | b :: bs, a => Tx.bind (f a b) fun a' => foldEach f bs a'

/-- The state after a call: its own when it is accepted, the old one when it is
rejected. -/
def commit (x : Tx apply α) (s : σ) : σ :=
  match x.run s with
  | .ok (_, _, final) => final
  | .error _ => s

/-- The writes a call leaves behind; none when it is rejected. -/
def journal (x : Tx apply α) (s : σ) : List ω :=
  match x.run s with
  | .ok (_, ws, _) => ws
  | .error _ => []

def accepts (x : Tx apply α) (s : σ) : Prop := ∃ a ws final, Does x s a ws final

instance (x : Tx apply α) (s : σ) : Decidable (x.accepts s) :=
  match h : x.run s with
  | .ok (a, ws, final) => isTrue ⟨a, ws, final, h⟩
  | .error e => isFalse (by
      rintro ⟨a, ws, final, does⟩
      rw [Does, h] at does
      cases does)

end Tx

open Tx

@[simp] theorem does_pure {a b : α} {s final : σ} {ws : List ω} :
    Does (Pure.pure a : Tx apply α) s b ws final ↔ b = a ∧ ws = [] ∧ final = s := by
  constructor
  · intro h; cases h; exact ⟨rfl, rfl, rfl⟩
  · rintro ⟨rfl, rfl, rfl⟩; rfl

@[simp] theorem does_bind {x : Tx apply α} {f : α → Tx apply β} {s final : σ} {b : β} {ws : List ω} :
    Does (x >>= f) s b ws final ↔ ∃ a front middle back,
      Does x s a front middle ∧ Does (f a) middle b back final ∧ ws = front ++ back := by
  constructor
  · intro h
    change (Tx.bind x f).run s = _ at h
    simp only [Tx.bind] at h
    cases hx : x.run s with
    | error e => simp [hx] at h
    | ok r =>
      obtain ⟨a, front, middle⟩ := r
      cases hf : (f a).run middle with
      | error e => simp [hx, hf] at h
      | ok r =>
        obtain ⟨c, back, last⟩ := r
        simp only [hx, hf, Except.ok.injEq, Prod.mk.injEq] at h
        obtain ⟨rfl, rfl, rfl⟩ := h
        exact ⟨a, front, middle, back, hx, hf, rfl⟩
  · rintro ⟨a, front, middle, back, hx, hf, rfl⟩
    change (Tx.bind x f).run s = _
    simp only [Does] at hx hf
    simp [Tx.bind, hx, hf]

@[simp] theorem does_ask {f : σ → α} {s final : σ} {a : α} {ws : List ω} :
    Does (ask f : Tx apply α) s a ws final ↔ a = f s ∧ ws = [] ∧ final = s := by
  constructor
  · intro h; cases h; exact ⟨rfl, rfl, rfl⟩
  · rintro ⟨rfl, rfl, rfl⟩; rfl

@[simp] theorem does_fail {e : ε} {s final : σ} {a : α} {ws : List ω} :
    ¬ Does (fail e : Tx apply α) s a ws final := by
  intro h; cases h

@[simp] theorem does_write {w : ω} {s final : σ} {u : Unit} {ws : List ω} :
    Does (write w : Tx apply Unit) s u ws final ↔ ws = [w] ∧ apply w s = .ok final := by
  simp only [Does, write]
  cases h : apply w s with
  | error e => simp
  | ok next => simp [eq_comm]

@[simp] theorem does_mapError {f : ε → ε} {x : Tx apply α} {s final : σ} {a : α} {ws : List ω} :
    Does (mapError f x) s a ws final ↔ Does x s a ws final := by
  simp only [Does, mapError]
  cases x.run s <;> simp

@[simp] theorem does_ensure {p : Prop} [Decidable p] {e : ε} {s final : σ} {u : Unit} {ws : List ω} :
    Does (ensure p e : Tx apply Unit) s u ws final ↔ p ∧ ws = [] ∧ final = s := by
  unfold ensure
  split
  · rename_i h
    exact does_pure.trans (by simp [h])
  · rename_i h
    simp [h]

@[simp] theorem does_require {o : Option α} {e : ε} {s final : σ} {a : α} {ws : List ω} :
    Does (require o e : Tx apply α) s a ws final ↔ o = some a ∧ ws = [] ∧ final = s := by
  cases o with
  | none => simp [require]
  | some b => exact does_pure.trans (by simp [eq_comm])

theorem does_when {p : Prop} [Decidable p] {x : Tx apply Unit} {s final : σ} {u : Unit} {ws : List ω} :
    Does (when p x) s u ws final ↔
      (p ∧ Does x s u ws final) ∨ (¬ p ∧ ws = [] ∧ final = s) := by
  unfold when
  split
  · rename_i h; simp [h]
  · rename_i h
    exact does_pure.trans (by simp [h])

@[simp] theorem does_each_nil {f : β → Tx apply Unit} {s final : σ} {u : Unit} {ws : List ω} :
    Does (each f []) s u ws final ↔ ws = [] ∧ final = s :=
  does_pure.trans (by simp)

@[simp] theorem does_each_cons {f : β → Tx apply Unit} {b : β} {bs : List β} {s final : σ}
    {u : Unit} {ws : List ω} :
    Does (each f (b :: bs)) s u ws final ↔ ∃ front middle back,
      Does (f b) s () front middle ∧ Does (each f bs) middle u back final ∧ ws = front ++ back :=
  (does_bind (x := f b) (f := fun _ => each f bs)).trans ⟨fun ⟨_, h⟩ => h, fun h => ⟨(), h⟩⟩

@[simp] theorem does_foldEach_nil {f : α → β → Tx apply α} {a b : α} {s final : σ} {ws : List ω} :
    Does (foldEach f [] a) s b ws final ↔ b = a ∧ ws = [] ∧ final = s :=
  does_pure

@[simp] theorem does_foldEach_cons {f : α → β → Tx apply α} {b : β} {bs : List β} {a c : α}
    {s final : σ} {ws : List ω} :
    Does (foldEach f (b :: bs) a) s c ws final ↔ ∃ a' front middle back,
      Does (f a b) s a' front middle ∧ Does (foldEach f bs a') middle c back final ∧
        ws = front ++ back :=
  does_bind (x := f a b) (f := foldEach f bs)

section Statements

variable {s final : σ} {b : β} {ws : List ω}

/-! The statements of a body one at a time: reads and guards leave the state in place. -/

theorem does_ask_bind {f : σ → α} {k : α → Tx apply β} :
    Does (ask f >>= k) s b ws final ↔ Does (k (f s)) s b ws final := by
  simp

theorem does_ensure_bind {p : Prop} [Decidable p] {e : ε} {k : Unit → Tx apply β} :
    Does (ensure p e >>= k) s b ws final ↔ p ∧ Does (k ()) s b ws final := by
  simp only [does_bind, does_ensure]
  constructor
  · rintro ⟨_, _, _, _, ⟨holds, rfl, rfl⟩, rest, rfl⟩
    exact ⟨holds, rest⟩
  · rintro ⟨holds, rest⟩
    exact ⟨(), [], s, ws, ⟨holds, rfl, rfl⟩, rest, rfl⟩

theorem does_require_bind {o : Option α} {e : ε} {k : α → Tx apply β} :
    Does (require o e >>= k) s b ws final ↔ ∃ a, o = some a ∧ Does (k a) s b ws final := by
  simp

theorem does_write_bind {w : ω} {k : Unit → Tx apply β} :
    Does (write w >>= k) s b ws final ↔
      ∃ middle back, apply w s = .ok middle ∧ Does (k ()) middle b back final ∧ ws = w :: back := by
  simp only [does_bind, does_write]
  constructor
  · rintro ⟨_, _, middle, back, ⟨rfl, applied⟩, rest, rfl⟩
    exact ⟨middle, back, applied, rest, rfl⟩
  · rintro ⟨middle, back, applied, rest, rfl⟩
    exact ⟨(), [w], middle, back, ⟨rfl, applied⟩, rest, rfl⟩

section Accepted

theorem accepts_bind {x : Tx apply α} {f : α → Tx apply β} :
    (x >>= f).accepts s ↔ ∃ a ws middle, Does x s a ws middle ∧ (f a).accepts middle := by
  constructor
  · rintro ⟨b, _, final, h⟩
    obtain ⟨a, front, middle, back, head, tail, _⟩ := does_bind.mp h
    exact ⟨a, front, middle, head, b, back, final, tail⟩
  · rintro ⟨a, front, middle, head, b, back, final, tail⟩
    exact ⟨b, front ++ back, final, does_bind.mpr ⟨a, front, middle, back, head, tail, rfl⟩⟩

/-- Bodies with one beginning are told apart by what comes after it. -/
theorem accepts_congr {x : Tx apply α} {f g : α → Tx apply β}
    (same : ∀ a ws middle, Does x s a ws middle → ((f a).accepts middle ↔ (g a).accepts middle)) :
    (x >>= f).accepts s ↔ (x >>= g).accepts s := by
  rw [accepts_bind, accepts_bind]
  constructor
  · rintro ⟨a, ws, middle, does, accepted⟩
    exact ⟨a, ws, middle, does, (same a ws middle does).mp accepted⟩
  · rintro ⟨a, ws, middle, does, accepted⟩
    exact ⟨a, ws, middle, does, (same a ws middle does).mpr accepted⟩

theorem accepts_ask_bind {f : σ → α} {k : α → Tx apply β} : (ask f >>= k).accepts s ↔ (k (f s)).accepts s := by
  simp [accepts_bind]

theorem accepts_ensure_bind {p : Prop} [Decidable p] {e : ε} {k : Unit → Tx apply β} :
    (ensure p e >>= k).accepts s ↔ p ∧ (k ()).accepts s := by
  simp [accepts_bind, Unique.exists_iff]

theorem accepts_wrapped_bind {f : ε → ε} {w : ω} {k : Unit → Tx apply β} :
    (mapError f (write w) >>= k).accepts s ↔ ∃ middle, apply w s = .ok middle ∧ (k ()).accepts middle := by
  simp [accepts_bind, Unique.exists_iff]

theorem accepts_require_bind {o : Option α} {e : ε} {k : α → Tx apply β} :
    (require o e >>= k).accepts s ↔ ∃ a, o = some a ∧ (k a).accepts s := by
  simp [accepts_bind]

theorem accepts_write_bind {w : ω} {k : Unit → Tx apply β} :
    (write w >>= k).accepts s ↔ ∃ middle, apply w s = .ok middle ∧ (k ()).accepts middle := by
  simp [accepts_bind, Unique.exists_iff]

end Accepted

end Statements

section ReadOnly

/-! A body that only reads and checks: it journals nothing and leaves the state. -/

def ReadOnly (x : Tx apply α) : Prop := ∀ s a ws final, Does x s a ws final → ws = [] ∧ final = s

theorem readOnly_ask {f : σ → α} : ReadOnly (ask f : Tx apply α) := by
  intro s b ws final h
  exact (does_ask.mp h).2

theorem readOnly_ensure {p : Prop} [Decidable p] {e : ε} : ReadOnly (ensure p e : Tx apply Unit) := by
  intro s b ws final h
  exact (does_ensure.mp h).2

theorem readOnly_require {o : Option α} {e : ε} : ReadOnly (require o e : Tx apply α) := by
  intro s b ws final h
  exact (does_require.mp h).2

theorem ReadOnly.bind {x : Tx apply α} {f : α → Tx apply β} (first : ReadOnly x) (rest : ∀ a, ReadOnly (f a)) :
    ReadOnly (x >>= f) := by
  intro s b ws final h
  obtain ⟨a, front, middle, back, head, tail, rfl⟩ := does_bind.mp h
  obtain ⟨rfl, rfl⟩ := first _ _ _ _ head
  obtain ⟨rfl, rfl⟩ := rest a _ _ _ _ tail
  exact ⟨rfl, rfl⟩

/-- After a body that only reads, the rest runs in the state it read. -/
theorem ReadOnly.does_bind {x : Tx apply α} (read : ReadOnly x) {f : α → Tx apply β} {s final : σ} {b : β}
    {ws : List ω} (h : Does (x >>= f) s b ws final) : ∃ a, Does x s a [] s ∧ Does (f a) s b ws final := by
  obtain ⟨a, front, middle, back, head, tail, rfl⟩ := Journal.does_bind.mp h
  obtain ⟨rfl, rfl⟩ := read _ _ _ _ head
  exact ⟨a, head, tail⟩

theorem ReadOnly.does_bind_iff {x : Tx apply α} (read : ReadOnly x) {f : α → Tx apply β} {s final : σ} {b : β}
    {ws : List ω} : Does (x >>= f) s b ws final ↔ ∃ a, Does x s a [] s ∧ Does (f a) s b ws final :=
  ⟨read.does_bind, fun ⟨a, head, tail⟩ => Journal.does_bind.mpr ⟨a, [], s, ws, head, tail, rfl⟩⟩

end ReadOnly

section Blind

/-! A body that does not see a change of the state: it goes the same way from the
changed state, with the same value and the same writes, and the change stays. -/

variable {change : σ → σ}

def Blind (change : σ → σ) (x : Tx apply α) : Prop :=
  ∀ s a ws final, Does x s a ws final → Does x (change s) a ws (change final)

theorem blind_pure {a : α} : Blind change (Pure.pure a : Tx apply α) := by
  intro s b ws final h
  obtain ⟨rfl, rfl, rfl⟩ := does_pure.mp h
  exact does_pure.mpr ⟨rfl, rfl, rfl⟩

theorem blind_ask {f : σ → α} (unread : ∀ s, f (change s) = f s) : Blind change (ask f : Tx apply α) := by
  intro s b ws final h
  obtain ⟨rfl, rfl, rfl⟩ := does_ask.mp h
  exact does_ask.mpr ⟨(unread _).symm, rfl, rfl⟩

theorem blind_write {w : ω} (free : ∀ s final, apply w s = .ok final → apply w (change s) = .ok (change final)) :
    Blind change (write w : Tx apply Unit) := by
  intro s b ws final h
  obtain ⟨rfl, applied⟩ := does_write.mp h
  exact does_write.mpr ⟨rfl, free _ _ applied⟩

theorem blind_ensure {p : Prop} [Decidable p] {e : ε} : Blind change (ensure p e : Tx apply Unit) := by
  intro s b ws final h
  obtain ⟨holds, rfl, rfl⟩ := does_ensure.mp h
  exact does_ensure.mpr ⟨holds, rfl, rfl⟩

theorem blind_require {o : Option α} {e : ε} : Blind change (require o e : Tx apply α) := by
  intro s b ws final h
  obtain ⟨found, rfl, rfl⟩ := does_require.mp h
  exact does_require.mpr ⟨found, rfl, rfl⟩

theorem Blind.bind {x : Tx apply α} {f : α → Tx apply β} (first : Blind change x)
    (rest : ∀ a, Blind change (f a)) : Blind change (x >>= f) := by
  intro s b ws final h
  obtain ⟨a, front, middle, back, head, tail, rfl⟩ := does_bind.mp h
  exact does_bind.mpr ⟨a, front, change middle, back, first _ _ _ _ head, rest a _ _ _ _ tail, rfl⟩

theorem Blind.mapError {x : Tx apply α} {f : ε → ε} (body : Blind change x) : Blind change (Tx.mapError f x) := by
  intro s b ws final h
  exact does_mapError.mpr (body _ _ _ _ (does_mapError.mp h))

theorem Blind.when {p : Prop} [Decidable p] {x : Tx apply Unit} (body : Blind change x) :
    Blind change (Tx.when p x) := by
  intro s b ws final h
  rcases does_when.mp h with ⟨holds, done⟩ | ⟨skipped, rfl, rfl⟩
  · exact does_when.mpr (.inl ⟨holds, body _ _ _ _ done⟩)
  · exact does_when.mpr (.inr ⟨skipped, rfl, rfl⟩)

theorem Blind.each {f : β → Tx apply Unit} (body : ∀ b, Blind change (f b)) (bs : List β) :
    Blind change (Tx.each f bs) := by
  induction bs with
  | nil => exact blind_pure
  | cons b bs ih => exact (body b).bind fun _ => ih

end Blind

section Unfailing

/-! A body that no state refuses. -/

def Unfailing (x : Tx apply α) : Prop := ∀ s, x.accepts s

theorem unfailing_pure {a : α} : Unfailing (Pure.pure a : Tx apply α) := fun s => ⟨a, [], s, does_pure.mpr ⟨rfl, rfl, rfl⟩⟩

theorem unfailing_write {w : ω} (applies : ∀ s, ∃ final, apply w s = .ok final) : Unfailing (write w : Tx apply Unit) := by
  intro s
  obtain ⟨final, applied⟩ := applies s
  exact ⟨(), [w], final, does_write.mpr ⟨rfl, applied⟩⟩

theorem Unfailing.bind {x : Tx apply α} {f : α → Tx apply β} (first : Unfailing x) (rest : ∀ a, Unfailing (f a)) :
    Unfailing (x >>= f) := by
  intro s
  obtain ⟨a, ws, middle, head⟩ := first s
  exact accepts_bind.mpr ⟨a, ws, middle, head, rest a middle⟩

theorem Unfailing.mapError {x : Tx apply α} {f : ε → ε} (body : Unfailing x) : Unfailing (Tx.mapError f x) := by
  intro s
  obtain ⟨a, ws, final, does⟩ := body s
  exact ⟨a, ws, final, does_mapError.mpr does⟩

theorem Unfailing.when {p : Prop} [Decidable p] {x : Tx apply Unit} (body : Unfailing x) : Unfailing (Tx.when p x) := by
  unfold Tx.when
  split
  · exact body
  · exact unfailing_pure

theorem unfailing_ensure {p : Prop} [Decidable p] {e : ε} (holds : p) : Unfailing (ensure p e : Tx apply Unit) :=
  fun s => ⟨(), [], s, does_ensure.mpr ⟨holds, rfl, rfl⟩⟩

theorem Unfailing.each {f : β → Tx apply Unit} {bs : List β} (body : ∀ b ∈ bs, Unfailing (f b)) :
    Unfailing (Tx.each f bs) := by
  induction bs with
  | nil => exact unfailing_pure
  | cons b bs ih => exact (body b (by simp)).bind fun _ => ih fun c member => body c (by simp [member])

end Unfailing

section Congruences

theorem ensure_congr {p q : Prop} [Decidable p] [Decidable q] {e : ε} (same : p ↔ q) :
    (ensure p e : Tx apply Unit) = ensure q e := by
  simp only [ensure, same]

theorem when_congr {p q : Prop} [Decidable p] [Decidable q] {x : Tx apply Unit} (same : p ↔ q) :
    when p x = when q x := by
  simp only [when, same]

/-- A loop over the images is the loop of the composed body. -/
theorem each_map (f : β → Tx apply Unit) (g : γ → β) (cs : List γ) :
    each f (cs.map g) = each (fun c => f (g c)) cs := by
  induction cs with
  | nil => rfl
  | cons c cs ih => simp only [List.map_cons, each, ih]

end Congruences

/-- A loop whose body journals `g b` at every element journals them in order. -/
theorem each_journal {f : β → Tx apply Unit} {g : β → List ω} {bs : List β}
    (body : ∀ b ∈ bs, ∀ s ws final, Does (f b) s () ws final → ws = g b)
    (done : Does (each f bs) s u ws final) : ws = bs.flatMap g := by
  induction bs generalizing s ws with
  | nil => simpa using (does_each_nil.mp done).1
  | cons b bs ih =>
    obtain ⟨front, middle, back, head, tail, rfl⟩ := does_each_cons.mp done
    rw [body b (by simp) _ _ _ head, ih (fun c hc => body c (by simp [hc])) tail]
    simp

/-- The same for a loop that passes a value along, with what every turn checks. -/
theorem foldEach_journal {f : α → β → Tx apply α} {g : α → β → α} {j : β → List ω} {checked : β → Prop}
    {bs : List β} (body : ∀ a, ∀ b ∈ bs, ∀ s a' ws final, Does (f a b) s a' ws final →
      a' = g a b ∧ ws = j b ∧ checked b)
    (done : Does (foldEach f bs a) s c ws final) :
    c = bs.foldl g a ∧ ws = bs.flatMap j ∧ ∀ b ∈ bs, checked b := by
  induction bs generalizing a s ws with
  | nil =>
    obtain ⟨rfl, rfl, -⟩ := does_foldEach_nil.mp done
    exact ⟨rfl, rfl, by simp⟩
  | cons b bs ih =>
    obtain ⟨a', front, middle, back, head, tail, rfl⟩ := does_foldEach_cons.mp done
    obtain ⟨rfl, rfl, first⟩ := body a b (by simp) _ _ _ _ head
    obtain ⟨rfl, rfl, rest⟩ := ih (fun a c hc => body a c (by simp [hc])) tail
    refine ⟨rfl, by simp, ?_⟩
    intro c member
    rcases List.mem_cons.mp member with rfl | later
    · exact first
    · exact rest c later

/-- A loop of checks: it writes nothing and every element passed. -/
theorem each_checks {f : β → Tx apply Unit} {checked : β → Prop} {bs : List β}
    (body : ∀ b ∈ bs, ∀ s ws final, Does (f b) s () ws final → ws = [] ∧ final = s ∧ checked b)
    (done : Does (each f bs) s u ws final) : ws = [] ∧ final = s ∧ ∀ b ∈ bs, checked b := by
  induction bs generalizing s ws with
  | nil =>
    obtain ⟨rfl, rfl⟩ := does_each_nil.mp done
    exact ⟨rfl, rfl, by simp⟩
  | cons b bs ih =>
    obtain ⟨front, middle, back, head, tail, rfl⟩ := does_each_cons.mp done
    obtain ⟨rfl, rfl, first⟩ := body b (by simp) _ _ _ head
    obtain ⟨rfl, rfl, rest⟩ := ih (fun c hc => body c (by simp [hc])) tail
    refine ⟨rfl, rfl, ?_⟩
    intro c member
    rcases List.mem_cons.mp member with rfl | later
    · exact first
    · exact rest c later

theorem Does.deterministic {x : Tx apply α} (first : Does x s a ws final)
    (second : Does x s b more last) : a = b ∧ ws = more ∧ final = last := by
  have h := first.symm.trans second
  simpa using h

theorem commit_accepted {x : Tx apply α} (h : Does x s a ws final) : x.commit s = final := by
  simp only [Does] at h
  simp [commit, h]

theorem journal_accepted {x : Tx apply α} (h : Does x s a ws final) : x.journal s = ws := by
  simp only [Does] at h
  simp [journal, h]

/-- An accepted call, with its own journal and the state it commits. -/
theorem does_accepted {x : Tx apply Unit} (h : x.accepts s) : Does x s () (x.journal s) (x.commit s) := by
  obtain ⟨u, ws, final, does⟩ := h
  rw [journal_accepted does, commit_accepted does]
  exact does

/-- Rollback: a rejected call leaves the state and journals nothing. -/
theorem commit_rejected {x : Tx apply α} (h : ¬ x.accepts s) : x.commit s = s ∧ x.journal s = [] := by
  cases hx : x.run s with
  | error e => simp [commit, journal, hx]
  | ok r => exact absurd ⟨r.1, r.2.1, r.2.2, hx⟩ h

theorem commit_replays (x : Tx apply α) (s : σ) : replay apply (x.journal s) s = .ok (x.commit s) := by
  cases hx : x.run s with
  | error e => simp [commit, journal, hx, replay]
  | ok r => simpa [commit, journal, hx] using x.replays _ _ _ _ hx

section Runs

variable (call : γ → Tx apply α)

/-- The state after a sequence of calls, accepted or not. -/
def after : List γ → σ → σ
  | [], s => s
  | c :: cs, s => after cs ((call c).commit s)

/-- All the writes of the accepted calls of a sequence, in order. -/
def history : List γ → σ → List ω
  | [], _ => []
  | c :: cs, s => (call c).journal s ++ history cs ((call c).commit s)

/-- Every call of the sequence is accepted in its turn. -/
def AllAccepted : List γ → σ → Prop
  | [], _ => True
  | c :: cs, s => (call c).accepts s ∧ AllAccepted cs ((call c).commit s)

@[simp] theorem after_nil (s : σ) : after call [] s = s := rfl

@[simp] theorem after_cons (c : γ) (cs : List γ) (s : σ) :
    after call (c :: cs) s = after call cs ((call c).commit s) := rfl

theorem after_append (front back : List γ) (s : σ) :
    after call (front ++ back) s = after call back (after call front s) := by
  induction front generalizing s with
  | nil => rfl
  | cons c front ih => exact ih _

theorem allAccepted_append (front back : List γ) (s : σ) :
    AllAccepted call (front ++ back) s ↔ AllAccepted call front s ∧ AllAccepted call back (after call front s) := by
  induction front generalizing s with
  | nil => simp [AllAccepted]
  | cons c front ih => exact (and_congr_right fun _ => ih _).trans and_assoc.symm

theorem history_append (front back : List γ) (s : σ) :
    history call (front ++ back) s = history call front s ++ history call back (after call front s) := by
  induction front generalizing s with
  | nil => rfl
  | cons c front ih => rw [List.cons_append, history, history, ih, List.append_assoc, after_cons]

/-- What every accepted call preserves holds after any sequence of calls. `good`
restricts the calls to the states they are made in. -/
theorem after_invariant {property : σ → Prop} {good : γ → σ → Prop}
    (preserved : ∀ c s a ws final, property s → good c s → Does (call c) s a ws final →
      property final)
    (calls : List γ) (s : σ) (initial : property s)
    (allowed : ∀ front c back, calls = front ++ c :: back → good c (after call front s)) :
    property (after call calls s) := by
  induction calls generalizing s with
  | nil => exact initial
  | cons c cs ih =>
    apply ih
    · by_cases accepted : (call c).accepts s
      · obtain ⟨a, ws, final, does⟩ := accepted
        rw [commit_accepted does]
        exact preserved _ _ _ _ _ initial (allowed [] c cs rfl) does
      · rw [(commit_rejected accepted).1]
        exact initial
    · intro front d back h
      exact allowed (c :: front) d back (by rw [h]; rfl)

/-- What every accepted call preserves, in whatever state, holds after any sequence. -/
theorem after_preserved {property : σ → Prop}
    (preserved : ∀ c s a ws final, property s → Does (call c) s a ws final → property final)
    (calls : List γ) (s : σ) (initial : property s) : property (after call calls s) :=
  after_invariant call (fun c s a ws final h (_ : True) => preserved c s a ws final h) calls s initial
    (fun _ _ _ _ => trivial)

end Runs

/-- A part of the state that every write changes by itself, whatever the rest holds. -/
structure Cell (apply : ω → σ → Except ε σ) (β : Type) where
  read : σ → β
  step : ω → β → β
  law : ∀ w s final, apply w s = .ok final → read final = step w (read s)

namespace Cell

variable (cell : Cell apply β)

/-- What a journal does to the cell. -/
def steps (ws : List ω) (b : β) : β := ws.foldl (fun b w => cell.step w b) b

@[simp] theorem steps_nil (b : β) : cell.steps [] b = b := rfl

@[simp] theorem steps_cons (w : ω) (ws : List ω) (b : β) :
    cell.steps (w :: ws) b = cell.steps ws (cell.step w b) := rfl

@[simp] theorem steps_append (front back : List ω) (b : β) :
    cell.steps (front ++ back) b = cell.steps back (cell.steps front b) := by
  simp [steps]

theorem replay_read {ws : List ω} {s final : σ} (h : replay apply ws s = .ok final) :
    cell.read final = cell.steps ws (cell.read s) := by
  induction ws generalizing s with
  | nil => cases h; rfl
  | cons w ws ih =>
    obtain ⟨next, applied, onward⟩ := replay_cons.mp h
    rw [steps_cons, ← cell.law _ _ _ applied]
    exact ih onward

/-- The frame rule: a journal none of whose writes touches the cell leaves it. -/
theorem steps_frame {ws : List ω} (untouched : ∀ w ∈ ws, ∀ b, cell.step w b = b) (b : β) :
    cell.steps ws b = b := by
  induction ws with
  | nil => rfl
  | cons w ws ih =>
    rw [steps_cons, untouched w (by simp)]
    exact ih (fun v hv => untouched v (by simp [hv]))

end Cell

section Parts

variable {τ υ : Type} {whole : υ → τ → Except ε τ}

/-- A part of a larger state, whose writes are among the writes on the whole. -/
structure Part (apply : ω → σ → Except ε σ) (whole : υ → τ → Except ε τ) where
  get : τ → σ
  set : σ → τ → τ
  inj : ω → υ
  set_get : ∀ t, set (get t) t = t
  get_set : ∀ s t, get (set s t) = s
  set_set : ∀ s s' t, set s' (set s t) = set s' t
  acts : ∀ w t, whole (inj w) t = (apply w (get t)).map (fun s => set s t)

namespace Part

variable (part : Part apply whole)

theorem replay_lift {ws : List ω} {t : τ} {s : σ} (h : replay apply ws (part.get t) = .ok s) :
    replay whole (ws.map part.inj) t = .ok (part.set s t) := by
  induction ws generalizing t with
  | nil =>
    cases h
    rw [part.set_get]
    rfl
  | cons w ws ih =>
    obtain ⟨next, applied, onward⟩ := replay_cons.mp h
    rw [← part.get_set next t] at onward
    have rest := ih onward
    rw [part.set_set] at rest
    simpa [replay, part.acts, applied, Except.map] using rest

/-- The transaction on the part, made on the whole. -/
def lift (x : Tx apply α) : Tx whole α where
  run := fun t =>
    match x.run (part.get t) with
    | .error e => .error e
    | .ok (a, ws, s) => .ok (a, ws.map part.inj, part.set s t)
  replays := by
    intro t a ws final h
    cases hx : x.run (part.get t) with
    | error e => simp [hx] at h
    | ok r =>
      simp only [hx] at h
      cases h
      exact part.replay_lift (x.replays _ _ _ _ hx)

theorem does_lift {x : Tx apply α} {t final : τ} {a : α} {ws : List υ} :
    Does (part.lift x) t a ws final ↔
      ∃ inner s, Does x (part.get t) a inner s ∧ ws = inner.map part.inj ∧ final = part.set s t := by
  simp only [Does, lift]
  cases ran : x.run (part.get t) with
  | error e => simp
  | ok r =>
    obtain ⟨b, inner, s⟩ := r
    constructor
    · intro h
      cases h
      exact ⟨inner, s, rfl, rfl, rfl⟩
    · rintro ⟨_, _, same, rfl, rfl⟩
      cases same
      rfl

end Part

end Parts

end Journal
