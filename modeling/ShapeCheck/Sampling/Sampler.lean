/-!
# Samplers

A sampler answers a request for `amount` places below `length` with a list of places and goes on in
a new state. Nothing is asked of the list: whoever draws has to put up with places that are out of
range or come twice.
-/

namespace ShapeCheck

/-- A source of places whose state is a `σ` (`IndexSampler`). -/
structure Sampler (σ : Type) where
  draw : (length amount : Nat) → σ → List Nat × σ

namespace Sampler

/-- The sampler that answers with the first places, as many as are asked for and exist
(`SequentialSampler`). -/
def sequential : Sampler Unit where
  draw length amount s := (List.range (min amount length), s)

/-- The sampler that gives a list of prepared answers one by one, and then empty ones. -/
def scripted : Sampler (List (List Nat)) where
  draw _ _ answers :=
    match answers with
    | [] => ([], [])
    | answer :: rest => (answer, rest)

/-- A sampler that also keeps the requests made, latest first. -/
def recorded {σ : Type} (sampler : Sampler σ) : Sampler (σ × List (Nat × Nat)) where
  draw length amount s :=
    let (answer, next) := sampler.draw length amount s.1
    (answer, next, (length, amount) :: s.2)

/-- A sampler whose first state is made at the first request, and not before (`LazySampler`). -/
def lazily {σ : Type} (sampler : Sampler σ) (fresh : σ) : Sampler (Option σ) where
  draw length amount s :=
    let (answer, next) := sampler.draw length amount (s.getD fresh)
    (answer, some next)

end Sampler

end ShapeCheck
