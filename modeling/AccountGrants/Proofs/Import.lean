import AccountGrants.Proofs.Reconcile

/-!
Import ids and lookups. An id is read back from its text where no part has the sign between the
parts, and a lookup yields the first listed grant that its id selects.
-/

namespace AccountGrants

namespace ImportId

/-- No part has the sign that stands between the parts. -/
structure IsPlain (id : ImportId) : Prop where
  user : '@' ∉ id.user.toList
  host : '@' ∉ id.host.toList
  database : '@' ∉ id.database.toList
  table : '@' ∉ id.table.toList

theorem toList_text (id : ImportId) :
    id.text.toList = id.user.toList ++ '@' :: (id.host.toList ++ '@' :: (id.database.toList ++
      '@' :: (id.table.toList ++ if id.grantOption then ['@'] else []))) := by
  cases h : id.grantOption <;> simp [text, h]

/-- An id is read from its text, whatever a fifth part holds. -/
theorem ofText_append {id : ImportId} (h : id.IsPlain) {lost : String} (hlost : '@' ∉ lost.toList)
    (hfifth : id.grantOption = false → lost = "") : ofText (id.text ++ lost) = .ok id := by
  have hsplit : (id.text ++ lost).toList.splitOn '@' =
      [id.user.toList, id.host.toList, id.database.toList, id.table.toList] ++
        if id.grantOption then [lost.toList] else [] := by
    rw [String.toList_append, toList_text]
    simp only [List.append_assoc, List.cons_append]
    rw [List.splitOn_append_cons_self_of_not_mem h.user,
      List.splitOn_append_cons_self_of_not_mem h.host,
      List.splitOn_append_cons_self_of_not_mem h.database]
    cases hoption : id.grantOption with
    | false => simp [hfifth hoption, List.splitOn_eq_singleton h.table]
    | true =>
      simp [List.splitOn_append_cons_self_of_not_mem h.table, List.splitOn_eq_singleton hlost]
  unfold ofText
  rw [hsplit]
  obtain ⟨user, host, database, table, grantOption⟩ := id
  cases grantOption <;> simp

theorem ofText_text {id : ImportId} (h : id.IsPlain) : ofText id.text = .ok id := by
  have hempty : '@' ∉ "".toList := List.not_mem_nil
  simpa using ofText_append h hempty fun _ => rfl

/-- An id with a table selects grants on this table only. -/
theorem selects_iff_of_table {id : ImportId} (htable : id.table ≠ "") (g : Grant) :
    id.selects g = true ↔ g.grantOption = id.grantOption ∧
      ∃ tokens, g.entitlement = .privileges tokens (.table id.database id.table) := by
  obtain ⟨entitlement, identity, grantOption, tlsOption⟩ := g
  rcases entitlement with ⟨tokens, ⟨database, name⟩ | ⟨kind, database, name⟩⟩ | roles <;>
    simp [selects, agrees, Grant.database?, Grant.table?, Object.database, htable.symm, and_assoc]

end ImportId

namespace Reconcile

theorem on_find (id : ImportId) (x : Exchange) :
    (find id).on x =
      (((list id.identity).on x).1.map (·.find? id.selects), ((list id.identity).on x).2) := by
  unfold find
  rw [Action.on_bind]
  rcases (list id.identity).on x with ⟨_ | _, y⟩ <;> rfl

theorem on_importGrant (id : ImportId) (x : Exchange) :
    (importGrant id).on x =
      (((find id).on x).1.map (·.map Declaration.ofGrant), ((find id).on x).2) := by
  unfold importGrant
  rw [Action.on_bind]
  rcases (find id).on x with ⟨_ | _, y⟩ <;> rfl

/-- On readable rows a lookup yields the first grant of its identity that its id selects. -/
theorem find_of_answer (id : ImportId) {x : Exchange} {rows : List String}
    (hanswer : x.queryAnswer = .ok rows) (hreadable : ∀ row ∈ rows, Row.Readable row) :
    ((find id).on x).1 = .ok ((grantsOf id.identity rows).find? id.selects) := by
  rw [on_find, on_list_of_ok id.identity hanswer, readListing_of_readable hreadable]
  rfl

end Reconcile

end AccountGrants
