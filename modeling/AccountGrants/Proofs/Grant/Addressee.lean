import AccountGrants.Declaration
import AccountGrants.Proofs.Grant.Holder
import AccountGrants.Proofs.Row.Addressee

/-!
Whom a statement addresses. Names are written between marks as they stand, so a name with a mark in
it ends its own quoted form, and another account is read from the statement. Names without marks are
read back wherever the holder's own place is the first one of the statement.
-/

namespace AccountGrants

open Text

/-- No name that is read holds a mark. -/
theorem isUnmarked_of_identity? {who : List Char} {identity : Identity}
    (h : Row.identity? who = some identity) : identity.IsUnmarked := by
  have hmarked : ∀ {s name rest : List Char}, Row.markedName? s = some (name, rest) →
      ∀ c ∈ (String.ofList name).toList, Row.isIdentityMark c = false := by
    intro s name rest hname
    obtain ⟨_, _, -, -, -, hunmarked⟩ := Row.markedName?_eq_some.mp hname
    rwa [String.toList_ofList]
  rcases Row.identity?_eq_some h with ⟨_, _, _, _, hname, hhost, rfl⟩ | ⟨_, _, hname, -, rfl⟩
  · exact ⟨hmarked hname, hmarked hhost⟩
  · exact hmarked hname

namespace Grant

variable {g : Grant}

-- a name that ends in TO and a blank makes its own closing mark look like a holder
example : Row.parse (Grant.statement ⟨.privileges ["SELECT"] (.table "app" "users"),
      .user "a ON FUNCTION b TO " "%", false, ""⟩) =
    .ok (.grant ⟨.privileges ["SELECTONAPP.USERSTO'A"] (.routine .function "b" "b"), .role "@",
      false, ""⟩) := rfl

end Grant

end AccountGrants
