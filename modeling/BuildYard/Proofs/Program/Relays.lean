import BuildYard.Proofs.Program.Traces

/-!
# Programs that answer programs

When each question of a program is answered by a program that asks others, the
whole asks what the answering programs ask, one after another. A
`RelayedExchange` is an exchange together with what was asked to answer it, and
`Relayed` says which of them there can be in a row, each beginning with the
state that the one before it left. The traces of a program run through others are those
of its relays (`yields_through_iff`).
-/

set_option autoImplicit false

namespace BuildYard

/-- An exchange, and the exchanges by which its question was answered. -/
structure RelayedExchange (Q : Type) (R : Q → Type) (Q' : Type) (R' : Q' → Type) where
  exchange : Exchange Q R
  asked : List (Exchange Q' R')

namespace Program

variable {Q Q' : Type} {R : Q → Type} {R' : Q' → Type} {σ α β : Type}

theorem yields_map_iff {p : Program Q R α} {f : α → β} {trace : List (Exchange Q R)} {b : β} :
    (f <$> p).Yields trace b ↔ ∃ a, p.Yields trace a ∧ f a = b := by
  rw [map_eq_pure_bind, yields_bind_iff]
  constructor
  · rintro ⟨first, a, second, rfl, yields, last⟩
    obtain ⟨rfl, rfl⟩ := yields_pure_iff.mp last
    exact ⟨a, by rwa [List.append_nil], rfl⟩
  · rintro ⟨a, yields, rfl⟩
    exact ⟨trace, a, [], (List.append_nil _).symm, yields, yields_pure_iff.mpr ⟨rfl, rfl⟩⟩

/-- Questions answered one after another by programs, with a state in between. -/
inductive Relayed (answer : (q : Q) → σ → Program Q' R' (R q × σ)) :
    σ → List (RelayedExchange Q R Q' R') → σ → Prop where
  | nil (state : σ) : Relayed answer state [] state
  | cons {state middle last : σ} {question : Q} {reply : R question}
      {asked : List (Exchange Q' R')} {relays : List (RelayedExchange Q R Q' R')} :
      (answer question state).Yields asked (reply, middle) → Relayed answer middle relays last →
        Relayed answer state (⟨⟨question, reply⟩, asked⟩ :: relays) last

variable {answer : (q : Q) → σ → Program Q' R' (R q × σ)}

/-- **A program run through others asks what is asked to answer it.** -/
theorem yields_through_iff {p : Program Q R α} {state last : σ} {value : α}
    {trace : List (Exchange Q' R')} :
    (p.through answer state).Yields trace (value, last) ↔
      ∃ relays, Relayed answer state relays last ∧ p.Yields (relays.map (·.exchange)) value ∧
        trace = relays.flatMap (·.asked) := by
  constructor
  · intro yields
    induction p generalizing state trace with
    | done value =>
      cases yields with
      | done => exact ⟨[], .nil _, .done _, rfl⟩
    | ask question next ih =>
      obtain ⟨asked, ⟨reply, middle⟩, rest, rfl, answered, continued⟩ := Yields.of_andThen yields
      obtain ⟨relays, relayed, ended, rfl⟩ := ih reply continued
      exact ⟨_ :: relays, .cons answered relayed, .ask reply ended, rfl⟩
  · rintro ⟨relays, relayed, yields, rfl⟩
    induction relayed generalizing p with
    | nil state =>
      cases yields with
      | done => exact .done _
    | cons answered _ ih =>
      cases yields with
      | ask reply yields => exact answered.andThen (ih yields)

/-- What holds of the state before a relay, and every answer to what is `allowed` keeps, holds in
the end, if nothing else is asked; and each relay was answered in such a state. -/
theorem Relayed.keeps_among {state last : σ} {relays : List (RelayedExchange Q R Q' R')}
    (relayed : Relayed answer state relays last) (holds : σ → Prop) (allowed : Q → Prop)
    (step : ∀ question state asked reply after, allowed question → holds state →
      (answer question state).Yields asked (reply, after) → holds after)
    (start : holds state) (among : ∀ relay ∈ relays, allowed relay.exchange.question) :
    holds last ∧ ∀ relay ∈ relays, ∃ before after, holds before ∧
      (answer relay.exchange.question before).Yields relay.asked
        (relay.exchange.answer, after) := by
  induction relayed with
  | nil => exact ⟨start, List.forall_mem_nil _⟩
  | cons answered _ ih =>
    obtain ⟨here, later⟩ := List.forall_mem_cons.mp among
    obtain ⟨kept, each⟩ := ih (step _ _ _ _ _ here start answered) later
    exact ⟨kept, List.forall_mem_cons.mpr ⟨⟨_, _, start, answered⟩, each⟩⟩

/-- The same for what every answer keeps. -/
theorem Relayed.keeps {state last : σ} {relays : List (RelayedExchange Q R Q' R')}
    (relayed : Relayed answer state relays last) (holds : σ → Prop)
    (step : ∀ question state asked reply after, holds state →
      (answer question state).Yields asked (reply, after) → holds after)
    (start : holds state) :
    holds last ∧ ∀ relay ∈ relays, ∃ before after, holds before ∧
      (answer relay.exchange.question before).Yields relay.asked
        (relay.exchange.answer, after) :=
  relayed.keeps_among holds (fun _ => True)
    (fun question state asked reply after _ => step question state asked reply after) start
    fun _ _ => trivial

/-! ## Programs through others come to an end -/

/-- The relays of a program that runs through others whose questions a world answers, with the
value, the state and the world in the end. -/
def relay {τ : Type} (answer : (q : Q) → σ → Program Q' R' (R q × σ))
    (world : (q : Q') → τ → R' q × τ) :
    Program Q R α → σ → τ → List (RelayedExchange Q R Q' R') × α × σ × τ
  | .done value, state, now => ([], value, state, now)
  | .ask q next, state, now =>
    let (asked, (reply, state), now) := (answer q state).record world now
    let (relays, value, state, now) := (next reply).relay answer world state now
    (⟨⟨q, reply⟩, asked⟩ :: relays, value, state, now)

/-- **Whoever answers in the end, a program runs through others to its end.** -/
theorem relayed_relay {τ : Type} (answer : (q : Q) → σ → Program Q' R' (R q × σ))
    (world : (q : Q') → τ → R' q × τ) (p : Program Q R α) (state : σ) (now : τ) :
    Relayed answer state (p.relay answer world state now).1
        (p.relay answer world state now).2.2.1 ∧
      p.Yields ((p.relay answer world state now).1.map (·.exchange))
        (p.relay answer world state now).2.1 := by
  induction p generalizing state now with
  | done value => exact ⟨.nil state, .done value⟩
  | ask q next ih =>
    have answered := yields_record world (answer q state) now
    obtain ⟨relayed, yields⟩ := ih _ _ _
    exact ⟨.cons answered relayed, .ask _ yields⟩

theorem Relayed.append {state middle last : σ} {relays more : List (RelayedExchange Q R Q' R')}
    (first : Relayed answer state relays middle) (second : Relayed answer middle more last) :
    Relayed answer state (relays ++ more) last := by
  induction first with
  | nil => exact second
  | cons answered _ ih => exact .cons answered (ih second)

theorem Relayed.of_append {state last : σ} {relays more : List (RelayedExchange Q R Q' R')}
    (relayed : Relayed answer state (relays ++ more) last) :
    ∃ middle, Relayed answer state relays middle ∧ Relayed answer middle more last := by
  induction relays generalizing state with
  | nil => exact ⟨state, .nil state, relayed⟩
  | cons relay relays ih =>
    cases relayed with
    | cons answered rest =>
      obtain ⟨middle, first, second⟩ := ih rest
      exact ⟨middle, .cons answered first, second⟩

end Program

end BuildYard
