import LinkedSheets.Event

/-!
# Traced computations

A traced computation has an outcome, and the events that happened on the way, in order. Events that
happened before a failure are kept. `attempt` makes a failure an ordinary outcome.
-/

namespace LinkedSheets

structure Traced (ε α : Type) where
  events : List Event
  outcome : Except ε α

namespace Traced

variable {ε α β : Type}

protected def pure (a : α) : Traced ε α := ⟨[], .ok a⟩

/-- Goes on after a success; the events of both parts follow each other. -/
protected def bind (t : Traced ε α) (f : α → Traced ε β) : Traced ε β :=
  match t.outcome with
  | .ok a =>
    let next := f a
    ⟨t.events ++ next.events, next.outcome⟩
  | .error e => ⟨t.events, .error e⟩

instance : Monad (Traced ε) where
  pure := Traced.pure
  bind := Traced.bind

@[simp] theorem outcome_pure (a : α) : (pure a : Traced ε α).outcome = .ok a := rfl

@[simp] theorem events_pure (a : α) : (pure a : Traced ε α).events = [] := rfl

theorem outcome_bind (t : Traced ε α) (f : α → Traced ε β) :
    (t >>= f).outcome = t.outcome >>= fun a => (f a).outcome := by
  obtain ⟨events, outcome⟩ := t
  cases outcome <;> rfl

theorem events_bind_of_ok {t : Traced ε α} {a : α} (h : t.outcome = .ok a)
    (f : α → Traced ε β) : (t >>= f).events = t.events ++ (f a).events := by
  obtain ⟨events, outcome⟩ := t
  cases h
  rfl

theorem events_bind_of_error {t : Traced ε α} {e : ε} (h : t.outcome = .error e)
    (f : α → Traced ε β) : (t >>= f).events = t.events := by
  obtain ⟨events, outcome⟩ := t
  cases h
  rfl

def fail (e : ε) : Traced ε α := ⟨[], .error e⟩

def emit (event : Event) : Traced ε Unit := ⟨[event], .ok ()⟩

/-- A computation without events. -/
def ofExcept (outcome : Except ε α) : Traced ε α := ⟨[], outcome⟩

/-- The outcome, whichever it is, with the events that led to it. -/
def attempt {δ : Type} (t : Traced ε α) : Traced δ (Except ε α) :=
  ⟨t.events, .ok t.outcome⟩

def mapError {δ : Type} (f : ε → δ) (t : Traced ε α) : Traced δ α :=
  ⟨t.events, t.outcome.mapError f⟩

@[simp] theorem outcome_fail (e : ε) : (fail e : Traced ε α).outcome = .error e := rfl

@[simp] theorem events_fail (e : ε) : (fail e : Traced ε α).events = [] := rfl

@[simp] theorem outcome_emit (event : Event) : (emit event : Traced ε Unit).outcome = .ok () := rfl

@[simp] theorem events_emit (event : Event) : (emit event : Traced ε Unit).events = [event] := rfl

@[simp] theorem outcome_ofExcept (x : Except ε α) : (ofExcept x).outcome = x := rfl

@[simp] theorem events_ofExcept (x : Except ε α) : (ofExcept x).events = [] := rfl

@[simp] theorem ofExcept_ok_bind (a : α) (f : α → Traced ε β) : (ofExcept (.ok a) >>= f) = f a :=
  rfl

@[simp] theorem outcome_attempt {δ : Type} (t : Traced ε α) :
    (t.attempt : Traced δ (Except ε α)).outcome = .ok t.outcome := rfl

@[simp] theorem events_attempt {δ : Type} (t : Traced ε α) :
    (t.attempt : Traced δ (Except ε α)).events = t.events := rfl

/-- An event of two parts is of the first, or of the second after the first succeeded. -/
theorem mem_events_bind {t : Traced ε α} {f : α → Traced ε β} {event : Event}
    (h : event ∈ (t >>= f).events) :
    event ∈ t.events ∨ ∃ a, t.outcome = .ok a ∧ event ∈ (f a).events := by
  rcases ht : t.outcome with e | a
  · rw [events_bind_of_error ht] at h
    exact .inl h
  · rw [events_bind_of_ok ht] at h
    exact (List.mem_append.1 h).imp_right fun h => ⟨a, rfl, h⟩

end Traced

end LinkedSheets
