import Mathlib.Data.List.Basic
import Mathlib.Logic.Function.Basic

namespace BanchoPrism.Library

-- A packet, and who it is put into the queue of.
structure Post (ρ π : Type) where
  packet : π
  audience : List ρ
  deriving DecidableEq

variable {ρ π : Type} [DecidableEq ρ]

-- What one reader gets of posts.
def seenBy (q : ρ) (posts : List (Post ρ π)) : List π :=
  (posts.filter fun post => q ∈ post.audience).map Post.packet

-- Queues that wait to be fetched, and what each reader has fetched.
structure Mailboxes (ρ π : Type) where
  queue : ρ → List π
  fetched : ρ → List π

namespace Mailboxes

def post (boxes : Mailboxes ρ π) (posts : List (Post ρ π)) : Mailboxes ρ π :=
  { boxes with queue := fun q => boxes.queue q ++ seenBy q posts }

def flush (boxes : Mailboxes ρ π) (q : ρ) : Mailboxes ρ π :=
  { queue := Function.update boxes.queue q []
    fetched := Function.update boxes.fetched q (boxes.fetched q ++ boxes.queue q) }

-- All that has ever been put into a queue.
def stream (boxes : Mailboxes ρ π) (q : ρ) : List π := boxes.fetched q ++ boxes.queue q

end Mailboxes

section Broadcast

variable {q r : ρ} {posts later : List (Post ρ π)} {boxes : Mailboxes ρ π}

theorem seenBy_append : seenBy q (posts ++ later) = seenBy q posts ++ seenBy q later := by
  rw [seenBy, List.filter_append, List.map_append]
  rfl

theorem seenBy_cons {post : Post ρ π} : seenBy q (post :: posts) =
    (if q ∈ post.audience then [post.packet] else []) ++ seenBy q posts := by
  rw [← List.singleton_append, seenBy_append]
  by_cases h : q ∈ post.audience <;> simp [seenBy, h]

theorem stream_post : (boxes.post posts).stream q = boxes.stream q ++ seenBy q posts :=
  (List.append_assoc _ _ _).symm

theorem stream_flush : (boxes.flush r).stream q = boxes.stream q := by
  unfold Mailboxes.stream Mailboxes.flush
  by_cases heq : q = r
  · subst heq
    simp only [Function.update_self, List.append_nil]
  · simp only [Function.update_of_ne heq]

end Broadcast

end BanchoPrism.Library
