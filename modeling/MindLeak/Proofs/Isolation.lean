import MindLeak.Proofs.Streams

/-! Whose records a stream writes. The ledger takes a record under whatever
identity the record names; the stream's own identity is not compared with it. -/

namespace MindLeak.Ackplane

open List Session

variable {world : World} {envelope : EventEnvelope}

namespace World

end World

section
variable {platform : Platform} {wire : V1.EventEnvelope}

end

def Session.Isolated (session : Session) : Prop :=
  ∀ envelope ∈ session.world.appended, ∃ authentication ∈ session.authentication,
    envelope.key.identity = authentication.identity

instance (session : Session) : Decidable session.Isolated :=
  inferInstanceAs (Decidable (∀ envelope ∈ session.world.appended, _))

section
variable {service : Service} {session after : Session}

theorem Session.Isolated.of_same {before after : Session} (isolated : before.Isolated)
    (appended : after.world.appended = before.world.appended) (same : after.authentication = before.authentication) :
    after.Isolated := by
  intro envelope member
  rw [same]
  exact isolated envelope (appended ▸ member)

theorem Session.Isolated.received {frame : V1.NodeFrame} (sound : session.Sound) (isolated : session.Isolated)
    (received : Received service session frame after)
    (quiet : ∀ identity events, session.state = .authenticated identity → frame ≠ ⟨some (.eventBatch events)⟩) :
    after.Isolated := by
  have appended := received.appended quiet
  rcases received.authentication with same | ⟨_, _, _, _, waiting⟩
  · exact isolated.of_same appended same
  simp only [Sound, waiting] at sound
  intro envelope member
  rw [appended, sound.2.1] at member
  cases member

end

end MindLeak.Ackplane
