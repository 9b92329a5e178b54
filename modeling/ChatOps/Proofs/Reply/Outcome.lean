import ChatOps.Output
import ChatOps.Proofs.Reply.Reading

/-!
# Declared outcomes

An object with a truth value under `success` declares how a command ended.  It is taken for
the reply that its members make up, and if they make up none it is taken for data, which is
a success whatever was declared.  So a declared failure remains one just if the object can
be read as a reply (`success_classify_iff`).
-/

set_option autoImplicit false

namespace ChatOps.Output

variable {members : List (String × Json)} {truth : Bool}

theorem classify_of_declared
    (declared : SortedMap.find? "success" members = some (.bool truth)) :
    classify (.object members) =
      match Reply.ofJson? (.object members) with
      | some finished => .reply finished
      | none => .json (.object members) := by
  cases read : Reply.ofJson? (.object members) with
  | none => simp only [classify, declared, read]
  | some finished => simp only [classify, declared, read]

theorem toReply_classify_of_described {reply : Reply} (described : reply.DescribedBy members) :
    (classify (.object members)).toReply = reply := by
  rw [classify_of_declared described.success, Reply.ofJson?_object_iff.2 described]
  rfl

theorem toReply_classify_of_unread
    (declared : SortedMap.find? "success" members = some (.bool truth))
    (unread : Reply.ofJson? (.object members) = none) :
    (classify (.object members)).toReply = .structured (.object members) := by
  rw [classify_of_declared declared, unread]
  rfl

/-- A declared failure remains a failure just if the object can be read as a reply. -/
theorem success_classify_iff
    (declared : SortedMap.find? "success" members = some (.bool false)) :
    (classify (.object members)).toReply.success = false ↔
      ∃ reply : Reply, reply.DescribedBy members := by
  constructor
  · intro failed
    cases read : Reply.ofJson? (.object members) with
    | some reply => exact ⟨reply, Reply.ofJson?_object_iff.1 read⟩
    | none =>
        rw [toReply_classify_of_unread declared read] at failed
        cases failed
  · rintro ⟨reply, described⟩
    have same := declared.symm.trans described.success
    rw [toReply_classify_of_described described]
    exact (Json.bool.inj (Option.some.inj same)).symm

theorem success_classify_iff_boom :
    let members : List (String × Json) := [("error", .string "boom"), ("success", .bool false)]
    SortedMap.find? "success" members = some (.bool false) ∧
      (classify (.object members)).toReply.success = false := by
  have declared : SortedMap.find? "success"
      [("error", Json.string "boom"), ("success", .bool false)] = some (.bool false) := by
    rfl
  refine ⟨declared, (success_classify_iff declared).2 ⟨Reply.failure "boom", ?_⟩⟩
  exact ⟨rfl, rfl, rfl, ⟨rfl, by simp [Reply.failure, Reply.bare]⟩, rfl, .name, rfl⟩

/-- A failure whose error is not a text but an object becomes a success. -/
theorem not_failure_of_code :
    ¬ ∀ members : List (String × Json),
      SortedMap.find? "success" members = some (.bool false) →
        (classify (.object members)).toReply.success = false := by
  intro remains
  have failed := remains
    [("error", .object [("code", Json.ofNat 7)]), ("success", .bool false)] rfl
  have succeeded : (classify (.object
      [("error", .object [("code", Json.ofNat 7)]), ("success", .bool false)])).toReply.success =
        true := by
    rfl
  cases succeeded.symm.trans failed

end ChatOps.Output
