import PfsenseMcp.Administration.Privileges

/-!
# A schema that allows what a profile needs

A description of an OpenAPI document says which privileges an operation accepts. With a schema whose
descriptions allow, for each endpoint of a profile, the privilege that its URL makes, the derivation
of `security_privileges.py` resolves every requirement.

## Main results

* `lookup_describe`: the privilege of a description is found in it;
* `resolveProfilePrivileges_describedSchema`: every requirement of a profile is resolved with both
  evidences.
-/

namespace Administration

open Python Tier1

/-! ### Descriptions -/

/-- Whether a character can be part of a privilege in a list. -/
def isNameChar (c : Char) : Bool := c ≠ ']' && (c ≠ ',' && !Bytes.isSpace c)

theorem isNameChar_iff {c : Char} :
    isNameChar c = true ↔ c ≠ ']' ∧ c ≠ ',' ∧ Bytes.isSpace c = false := by
  simp [isNameChar]

/-- An operation whose description allows one privilege. -/
def describeOperation (privilege : String) : Json :=
  .obj [("description", .str (String.ofList ("Allowed privileges**:".toList ++
    ' ' :: '[' :: (privilege.toList ++ [']']))))]

theorem dropPrefix?_append (l rest : List Char) : (l ++ rest).dropPrefix? l = some rest := by
  induction l with
  | nil => simp
  | cons c l ih => simp [List.dropPrefix?, ih]

theorem search_of_match {text group : List Char} (h : matchAllowedPrivileges text = some group) :
    searchAllowedPrivileges text = some group := by
  cases text with
  | nil => exact h
  | cons c cs => rw [searchAllowedPrivileges, h, Option.orElse_some]

/-- The privilege is found in the description. -/
theorem search_describe {name : List Char} (hname : ∀ c ∈ name, isNameChar c = true) :
    searchAllowedPrivileges
      ("Allowed privileges**:".toList ++ ' ' :: '[' :: (name ++ [']'])) = some name := by
  have hclosed : ∀ c ∈ name, decide (c ≠ ']') = true := fun c hc =>
    decide_eq_true (isNameChar_iff.mp (hname c hc)).1
  have hopen : (' ' :: '[' :: (name ++ [']'])).dropWhile Bytes.isSpace =
      '[' :: (name ++ [']']) := by
    rw [List.dropWhile_cons_of_pos (by decide), List.dropWhile_cons_of_neg (by decide)]
  have hstart : (name ++ [']']).dropWhile Bytes.isSpace = name ++ [']'] := by
    cases name with
    | nil => exact List.dropWhile_cons_of_neg (by decide)
    | cons c cs =>
      have hc := (isNameChar_iff.mp (hname c List.mem_cons_self)).2.2
      exact List.dropWhile_cons_of_neg (by simp [hc])
  apply search_of_match
  rw [matchAllowedPrivileges, dropPrefix?_append, Option.bind_eq_bind, Option.bind_some, hopen]
  simp only [hstart]
  rw [if_pos (by simp), List.takeWhile_append_of_pos hclosed]
  simp

theorem strip_of_forall {text : String} (h : ∀ c ∈ text.toList, Bytes.isSpace c = false) :
    Bytes.strip text = text := by
  have hdrop : ∀ cs : List Char, (∀ c ∈ cs, Bytes.isSpace c = false) →
      cs.dropWhile Bytes.isSpace = cs := by
    intro cs hcs
    cases cs with
    | nil => rfl
    | cons c cs => exact List.dropWhile_cons_of_neg (by simp [hcs c List.mem_cons_self])
  rw [Bytes.strip, hdrop _ h, hdrop _ (fun c hc => h c (List.mem_reverse.mp hc)),
    List.reverse_reverse, String.ofList_toList]

section

variable (repr : String → String)

/-- Such an operation allows that privilege. -/
theorem lookup_describe {schema paths operations : List (String × Json)}
    {url method privilege : String} (hpaths : getField schema "paths" = some (.obj paths))
    (hurl : getField paths url = some (.obj operations))
    (hoperation : getField operations (String.ofList (method.toList.map Char.toLower)) =
      some (describeOperation privilege))
    (hname : ∀ c ∈ privilege.toList, isNameChar c = true) (hne : privilege ≠ "") :
    lookupSchemaPrivileges repr schema url method = .ok [privilege] := by
  have hstrip : Bytes.strip privilege = privilege := strip_of_forall fun c hc =>
    (isNameChar_iff.mp (hname c hc)).2.2
  have hsplit : privilege.toList.splitOn ',' = [privilege.toList] := by
    refine List.splitOnP_eq_singleton fun c hc => ?_
    simpa using (isNameChar_iff.mp (hname c hc)).2.1
  have hdescription : ∀ description, getField [("description", description)] "description" =
      some description := fun _ => rfl
  unfold lookupSchemaPrivileges
  simp only [hpaths, hurl, hoperation, describeOperation, hdescription, String.toList_ofList,
    search_describe hname, String.ofList_toList, hstrip, hne, if_false, hsplit, List.map_cons,
    List.map_nil, List.mem_singleton, Ne.symm hne]
  rfl

/-- A privilege that is the one of the endpoint is resolved with both evidences. -/
theorem resolve_of_lookup {schema : List (String × Json)} {url method : String}
    (h : lookupSchemaPrivileges repr schema url method = .ok [computePrivilegeFromUrl url method])
    (hne : computePrivilegeFromUrl url method ≠ pageAllPrivilege) :
    resolvePrivilege repr schema url method =
      ⟨url, method, some (computePrivilegeFromUrl url method), some .sourceCrossChecked, none⟩ := by
  have hnarrow : [computePrivilegeFromUrl url method].filter (· ≠ pageAllPrivilege) =
      [computePrivilegeFromUrl url method] := List.filter_cons_of_pos (by simpa using hne)
  unfold resolvePrivilege
  simp only [h, hnarrow, ne_eq, not_true_eq_false, if_false]

/-! ### Schemas -/

/-- The paths of a schema that allows the privileges to read and to change each endpoint. -/
def describePaths (urls : List String) : List (String × Json) :=
  urls.map fun url => (url, .obj
    [("get", describeOperation (computePrivilegeFromUrl url "GET")),
      ("patch", describeOperation (computePrivilegeFromUrl url "PATCH"))])

/-- A schema that allows the privileges of a profile. -/
def describedSchema (targetProfile : TargetProfile) : List (String × Json) :=
  [("paths", .obj (describePaths ((expectedRequirements targetProfile).map (·.url))))]

theorem getField_describePaths {urls : List String} {url : String} (h : url ∈ urls) :
    getField (describePaths urls) url = some (.obj
      [("get", describeOperation (computePrivilegeFromUrl url "GET")),
        ("patch", describeOperation (computePrivilegeFromUrl url "PATCH"))]) := by
  induction urls with
  | nil => exact absurd h List.not_mem_nil
  | cons first rest ih =>
    rw [describePaths, List.map_cons, getField, List.lookup_cons]
    by_cases hfirst : url = first
    · rw [hfirst, beq_self_eq_true]
    · rw [beq_false_of_ne hfirst]
      exact ih ((List.mem_cons.mp h).resolve_left hfirst)

/-- What a text consists of, by the list of characters that its literal stands for. -/
theorem all_toList_of_eq_ofList {p : Char → Bool} {text : String} (chars : List Char)
    (htext : text = String.ofList chars) (h : chars.all p = true) : text.toList.all p = true := by
  rw [htext, String.toList_ofList]
  exact h

/-- The names of the endpoints can stand in a list of privileges. -/
theorem isNameChar_url {targetProfile : TargetProfile} {r : ToolPrivilegeRequirement}
    (hr : r ∈ expectedRequirements targetProfile) : ∀ c ∈ r.url.toList, isNameChar c = true := by
  have hpath : ∀ path ∈ readPathSuffixes ++ writeEndpoints.map Prod.fst,
      path.toList.all isNameChar = true := by
    unfold readPathSuffixes writeEndpoints
    simp only [List.map_cons, List.map_nil, List.cons_append, List.nil_append]
    repeat
      first
      | exact List.forall_mem_nil _
      | refine List.forall_mem_cons.2 ⟨all_toList_of_eq_ofList _ rfl (by decide), ?_⟩
  have hfull : ∀ path ∈ readPathSuffixes ++ writeEndpoints.map Prod.fst,
      ∀ c ∈ (fullPath path).toList, isNameChar c = true := by
    intro path hmem c hc
    rw [fullPath, String.toList_append] at hc
    rcases List.mem_append.mp hc with hc | hc
    · exact List.all_eq_true.mp (by decide : "/api/v2".toList.all isNameChar = true) c hc
    · exact List.all_eq_true.mp (hpath path hmem) c hc
  have hread : ∀ r ∈ registeredReadToolRequirements, ∀ c ∈ r.url.toList, isNameChar c = true := by
    intro r hr
    obtain ⟨path, hmem, rfl⟩ := List.mem_map.mp hr
    exact hfull path (List.mem_append_left _ hmem)
  have hwrite : ∀ r ∈ writeProtectedToolRequirements, ∀ c ∈ r.url.toList, isNameChar c = true := by
    intro r hr
    obtain ⟨entry, hmem, rfl⟩ := List.mem_map.mp hr
    exact hfull entry.1 (List.mem_append_right _ (List.mem_map_of_mem hmem))
  cases targetProfile with
  | readOnly => exact hread r hr
  | writeProtected => exact (List.mem_append.mp hr).elim (hread r) (hwrite r)

theorem isNameChar_computePrivilegeFromUrl {url method : String}
    (hurl : ∀ c ∈ url.toList, isNameChar c = true) (hmethod : method = "GET" ∨ method = "PATCH") :
    ∀ c ∈ (computePrivilegeFromUrl url method).toList, isNameChar c = true := by
  have hslug : ∀ c ∈ url.toList.map slugChar, isNameChar c = true := by
    intro c hc
    obtain ⟨d, hd, rfl⟩ := List.mem_map.mp hc
    unfold slugChar
    split
    · decide
    · exact hurl d hd
  have hlower : ∀ c ∈ method.toList.map Char.toLower, isNameChar c = true := by
    rcases hmethod with rfl | rfl <;> exact List.all_eq_true.mp (by decide)
  intro c hc
  rw [computePrivilegeFromUrl, String.toList_ofList] at hc
  rcases List.mem_append.mp hc with hc | hc
  · split at hc
    · exact hslug c (List.mem_of_mem_tail hc)
    · exact hslug c hc
  · rcases List.mem_cons.mp hc with rfl | hc
    · decide
    · exact hlower c hc

/-- With such a schema, every privilege is resolved. -/
theorem resolveProfilePrivileges_describedSchema (targetProfile : TargetProfile) :
    resolveProfilePrivileges repr (describedSchema targetProfile)
        (expectedRequirements targetProfile) =
      (expectedRequirements targetProfile).map fun r =>
        ⟨r.url, r.method, some (computePrivilegeFromUrl r.url r.method),
          some .sourceCrossChecked, none⟩ := by
  refine List.map_congr_left fun r hr => ?_
  have hmethod := method_expectedRequirements hr
  have hpaths : getField (describedSchema targetProfile) "paths" = some (.obj
      (describePaths ((expectedRequirements targetProfile).map (·.url)))) := rfl
  have hurl := getField_describePaths (List.mem_map_of_mem (f := (·.url)) hr)
  have hoperation : getField
      [("get", describeOperation (computePrivilegeFromUrl r.url "GET")),
        ("patch", describeOperation (computePrivilegeFromUrl r.url "PATCH"))]
      (String.ofList (r.method.toList.map Char.toLower)) =
      some (describeOperation (computePrivilegeFromUrl r.url r.method)) := by
    rcases hmethod with h | h <;> rw [h] <;> rfl
  have hend := prefix_computePrivilegeFromUrl hr
  exact resolve_of_lookup repr (lookup_describe repr hpaths hurl hoperation
    (isNameChar_computePrivilegeFromUrl (isNameChar_url hr) hmethod)
    (ne_of_ending hend (by decide) (by decide))) (ne_of_ending hend (by decide) (by decide))

end

/-- The privileges that are derived with such a schema. -/
def describedPrivileges (targetProfile : TargetProfile) : Finset String :=
  ((expectedRequirements targetProfile).map fun r =>
    computePrivilegeFromUrl r.url r.method).toFinset

theorem distinctOkPrivileges_described (requirements : List ToolPrivilegeRequirement) :
    distinctOkPrivileges (requirements.map fun r =>
      ⟨r.url, r.method, some (computePrivilegeFromUrl r.url r.method),
        some .sourceCrossChecked, none⟩) =
      (requirements.map fun r => computePrivilegeFromUrl r.url r.method).toFinset := by
  rw [distinctOkPrivileges, List.filterMap_map]
  congr 1
  exact List.filterMap_eq_map_iff_forall_eq_some.mpr fun r _ => rfl

/-- None of them is the one for all pages. -/
theorem pageAll_notMem_describedPrivileges (targetProfile : TargetProfile) :
    pageAllPrivilege ∉ describedPrivileges targetProfile := by
  intro h
  obtain ⟨r, hr, heq⟩ := List.mem_map.mp (List.mem_toFinset.mp h)
  exact ne_of_ending (prefix_computePrivilegeFromUrl hr) (by decide) (by decide) heq

theorem describedPrivileges_ne_empty (targetProfile : TargetProfile) :
    describedPrivileges targetProfile ≠ ∅ := by
  intro h
  have hread : (⟨fullPath "/users", "GET"⟩ : ToolPrivilegeRequirement) ∈
      registeredReadToolRequirements := List.mem_map.mpr ⟨"/users", by decide, rfl⟩
  have hmem : (⟨fullPath "/users", "GET"⟩ : ToolPrivilegeRequirement) ∈
      expectedRequirements targetProfile := by
    rcases targetProfile with _ | _
    · exact hread
    · exact List.mem_append_left _ hread
  have hprivilege : computePrivilegeFromUrl (fullPath "/users") "GET" ∈
      describedPrivileges targetProfile := List.mem_toFinset.mpr (List.mem_map.mpr ⟨_, hmem, rfl⟩)
  rw [h] at hprivilege
  exact absurd hprivilege (Finset.notMem_empty _)

/-- With such a schema, the privileges are derived. -/
theorem deriveExpectedPrivileges_describedSchema (repr : String → String)
    (targetProfile : TargetProfile) :
    deriveExpectedPrivileges repr (some (describedSchema targetProfile)) targetProfile =
      .ok (describedPrivileges targetProfile) := by
  have hne : expectedRequirements targetProfile ≠ [] := by
    intro h
    apply describedPrivileges_ne_empty targetProfile
    rw [describedPrivileges, h]
    rfl
  rw [deriveExpectedPrivileges]
  dsimp only
  rw [resolveProfilePrivileges_describedSchema, distinctOkPrivileges_described,
    if_neg (by simpa using hne), if_neg]
  · exact if_neg (describedPrivileges_ne_empty targetProfile)
  · rw [not_not, List.filter_eq_nil_iff]
    intro r hr
    obtain ⟨requirement, -, rfl⟩ := List.mem_map.mp hr
    simp [ResolvedPrivilege.ok]

end Administration
