import AccountGrants.Proofs.Import
import AccountGrants.Proofs.Text.Words

/-!
Which texts are import ids. The reader takes every text of four or five parts and does not look at
what the fifth holds (`ImportId.ofText_eq_ok_iff`), so an id that is written back may be shorter
than the text that it was read from: `ImportId.text_of_ofText`.
-/

namespace AccountGrants.ImportId

open Text

/-- The parts of a text have no sign in them and make the text up. -/
theorem parts_of_text {s : String} {parts : List String}
    (h : (s.toList.splitOn '@').map String.ofList = parts) :
    s.toList = ['@'].intercalate (parts.map String.toList) ∧
      ∀ part ∈ parts, '@' ∉ part.toList := by
  subst h
  constructor
  · simp [List.map_map, Function.comp_def, List.intercalate_splitOn]
  · intro part hpart
    obtain ⟨text, htext, rfl⟩ := List.mem_map.mp hpart
    rw [String.toList_ofList]
    exact (not_mem_of_mem_splitOn htext).1

/-- A text is read as the plain id whose text it begins with. Behind that there may be more only if
the id asks for the option. -/
theorem ofText_eq_ok_iff {s : String} {id : ImportId} : ofText s = .ok id ↔
    id.IsPlain ∧ ∃ lost : String, s = id.text ++ lost ∧ '@' ∉ lost.toList ∧
      (id.grantOption = false → lost = "") := by
  constructor
  · intro h
    unfold ofText at h
    split at h
    next user host database table hparts =>
      cases h
      obtain ⟨htext, hplain⟩ := parts_of_text hparts
      simp only [List.forall_mem_cons] at hplain
      refine ⟨⟨hplain.1, hplain.2.1, hplain.2.2.1, hplain.2.2.2.1⟩, "", ?_, List.not_mem_nil,
        fun _ => rfl⟩
      rw [← String.toList_inj, htext, String.toList_append, toList_text]
      simp
    next user host database table lost hparts =>
      cases h
      obtain ⟨htext, hplain⟩ := parts_of_text hparts
      simp only [List.forall_mem_cons] at hplain
      refine ⟨⟨hplain.1, hplain.2.1, hplain.2.2.1, hplain.2.2.2.1⟩, lost, ?_, hplain.2.2.2.2.1,
        nofun⟩
      rw [← String.toList_inj, htext, String.toList_append, toList_text]
      simp
    next => cases h
  · rintro ⟨hplain, lost, rfl, hlost, hfifth⟩
    exact ofText_append hplain hlost hfifth

/-- Every other text is refused, and quoted in the refusal. -/
theorem ofText_eq_error_iff {s : String} {problem : Problem} : ofText s = .error problem ↔
    problem = .definition (.importId s) ∧ s.toList.count '@' ≠ 3 ∧ s.toList.count '@' ≠ 4 := by
  have hlength : ((s.toList.splitOn '@').map String.ofList).length = s.toList.count '@' + 1 := by
    rw [List.length_map, length_splitOn]
  unfold ofText
  generalize (s.toList.splitOn '@').map String.ofList = parts at hlength ⊢
  rcases parts with _ | ⟨a, _ | ⟨b, _ | ⟨c, _ | ⟨d, _ | ⟨e, _ | ⟨f, more⟩⟩⟩⟩⟩⟩ <;>
    simp only [List.length_nil, List.length_cons] at hlength <;> simp [eq_comm] <;> omega

theorem count_text {id : ImportId} (h : id.IsPlain) :
    id.text.toList.count '@' = if id.grantOption then 4 else 3 := by
  rw [toList_text]
  cases id.grantOption <;>
    simp [List.count_eq_zero_of_not_mem, h.user, h.host, h.database, h.table]

theorem getLast?_text_append {id : ImportId} (h : id.grantOption = true) {lost : List Char}
    (hlost : '@' ∉ lost) : (id.text.toList ++ lost).getLast? = some '@' ↔ lost = [] := by
  constructor
  · intro hlast
    by_contra hne
    rw [List.getLast?_append_of_ne_nil _ hne] at hlast
    exact hlost (List.mem_of_getLast? hlast)
  · rintro rfl
    refine List.getLast?_eq_some_iff.mpr
      ⟨("@".intercalate [id.user, id.host, id.database, id.table]).toList, ?_⟩
    rw [List.append_nil, text, if_pos h, String.toList_append]
    rfl

/-- An id that a text is read as has all of the text but what a fifth part holds. So it is written
back as the same text exactly if there is no fifth part, or nothing in it. -/
theorem text_of_ofText {s : String} {id : ImportId} (h : ofText s = .ok id) :
    (∃ lost : String, s = id.text ++ lost ∧ '@' ∉ lost.toList ∧
      (lost ≠ "" → id.grantOption = true)) ∧
      (id.text = s ↔ s.toList.count '@' = 3 ∨ s.toList.getLast? = some '@') := by
  obtain ⟨hplain, lost, rfl, hlost, hfifth⟩ := ofText_eq_ok_iff.mp h
  have hsame : id.text = id.text ++ lost ↔ lost = "" := by
    rw [← String.toList_inj, String.toList_append, List.self_eq_append_right,
      String.toList_eq_nil_iff]
  have hcount : (id.text ++ lost).toList.count '@' = if id.grantOption then 4 else 3 := by
    rw [String.toList_append, List.count_append, count_text hplain,
      List.count_eq_zero_of_not_mem hlost, Nat.add_zero]
  refine ⟨⟨lost, rfl, hlost, fun hne => ?_⟩, ?_⟩
  · by_contra hoption
    exact hne (hfifth (by simpa using hoption))
  -- A fifth part with text in it leaves four signs and no sign at the end.
  rw [hsame, hcount]
  cases hoption : id.grantOption with
  | false => simp [hfifth hoption]
  | true =>
    rw [String.toList_append, getLast?_text_append hoption hlost, String.toList_eq_nil_iff]
    simp

/-- The id of a grant that a holder may pass on loses nothing. -/
theorem usersId_text_of_ofText :
    ofText "bob@%@app@users@" = .ok ⟨"bob", "%", "app", "users", true⟩ ∧
      text ⟨"bob", "%", "app", "users", true⟩ = "bob@%@app@users@" := by
  have hread : ofText "bob@%@app@users@" = .ok ⟨"bob", "%", "app", "users", true⟩ := rfl
  exact ⟨hread, (text_of_ofText hread).2.mpr (Or.inr rfl)⟩

/-- A user name with a sign in it moves every other part by one. The table is lost, and another
account's grant is asked for. -/
theorem shiftedId_text_lost :
    ofText "bob@corp@%@app@users" = .ok ⟨"bob", "corp", "%", "app", true⟩ ∧
      text ⟨"bob", "corp", "%", "app", true⟩ = "bob@corp@%@app@" ∧
      ¬∀ s id, ofText s = .ok id → id.text = s := by
  have hread : ofText "bob@corp@%@app@users" = .ok ⟨"bob", "corp", "%", "app", true⟩ := rfl
  have htext : text ⟨"bob", "corp", "%", "app", true⟩ = "bob@corp@%@app@" := rfl
  refine ⟨hread, htext, fun hkept => ?_⟩
  have hsame := hkept _ _ hread
  rw [htext] at hsame
  exact absurd hsame (by decide)

end AccountGrants.ImportId
