import SaasOs.Foundation.CJson

/-!
# Maintenance of the dead-letter list

Dead letters are texts in a list of the store.  Two scripts maintain the list, each of them in one
step: the purge keeps the entries of the other tenants, which it writes back in chunks, and the
rewrite replaces the errors that begin with one of some texts by others.
-/

namespace SaasOs.Jobs

open CJson

variable {Raw : Type*} (codec : Codec Raw)

/-! ## Purging a tenant -/

/-- The entry is an object whose `tenant_id` is the string. -/
def isTenants (tenantId : String) (raw : Raw) : Bool :=
  match codec.decode raw with
  | some ⟨.object members, _⟩ =>
    match members "tenant_id" with
    | some (.str text) => text = tenantId
    | _ => false
  | _ => false

/-- The survivors, appended chunk by chunk: the `c`-th one begins after `c` chunks. -/
def pushChunks (chunkSize : ℕ) (survivors : List Raw) : List Raw :=
  (List.range ((survivors.length + chunkSize - 1) / chunkSize)).foldl
    (fun list c => list ++ (survivors.drop (c * chunkSize)).take chunkSize) []

/-- `_PURGE_TENANT_DEAD_LETTERS_LUA`: the list it leaves and the number of entries removed. -/
def purgeTenantDeadLetters (tenantId : String) (rawEntries : List Raw) : List Raw × ℕ :=
  let (survivors, removed) := rawEntries.foldl
    (fun (survivors, removed) raw =>
      if isTenants codec tenantId raw then (survivors, removed + 1)
      else (survivors ++ [raw], removed)) ([], 0)
  if 0 < removed then (pushChunks 200 survivors, removed) else (rawEntries, removed)

/-! ## Rewriting errors -/

def firstReplacement (replacements : List (String × String)) (error : String) :
    Option (String × String) :=
  replacements.find? fun replacement => replacement.1.toList.isPrefixOf error.toList

def rewriteEntry (replacements : List (String × String)) (raw : Raw) : Option Raw :=
  match codec.decode raw with
  | some ⟨.object members, h⟩ =>
    match members "error" with
    | some (.str error) => (firstReplacement replacements error).map fun replacement =>
        codec.encode (Document.setMember h "error" replacement.2)
    | _ => none
  | _ => none

/-- `_REWRITE_DEAD_LETTER_ERRORS_LUA`: the list it leaves and the number of entries that match. -/
def rewriteDeadLetterErrors (replacements : List (String × String)) (apply : Bool)
    (rawEntries : List Raw) : List Raw × ℕ :=
  rawEntries.zipIdx.foldl
    (fun (list, matched) (raw, i) =>
      match rewriteEntry codec replacements raw with
      | none => (list, matched)
      | some new => (if apply then list.set i new else list, matched + 1)) (rawEntries, 0)

/-! ## What is promised -/

/-- The purge leaves the entries of others, byte for byte and in order, and says how many it removed;
a second one removes nothing, and the order of two purges does not matter. -/
structure PurgesExactly (rawEntries : List Raw) : Prop where
  kept : ∀ tenantId, purgeTenantDeadLetters codec tenantId rawEntries =
    (rawEntries.filter fun raw => !isTenants codec tenantId raw,
      rawEntries.countP (isTenants codec tenantId))
  idempotent : ∀ tenantId,
    purgeTenantDeadLetters codec tenantId (purgeTenantDeadLetters codec tenantId rawEntries).1 =
      ((purgeTenantDeadLetters codec tenantId rawEntries).1, 0)
  comm : ∀ tenantId other,
    (purgeTenantDeadLetters codec tenantId (purgeTenantDeadLetters codec other rawEntries).1).1 =
      (purgeTenantDeadLetters codec other (purgeTenantDeadLetters codec tenantId rawEntries).1).1

/-- The entry is an object with these members, and its error begins with the text of a replacement,
the first such. -/
def IsOutdated (replacements : List (String × String)) (raw : Raw) (members : String → Option Value)
    (replacement : String) : Prop :=
  ∃ h error text, codec.decode raw = some ⟨.object members, h⟩ ∧
    members "error" = some (.str error) ∧
    firstReplacement replacements error = some (text, replacement)

def IsReplaced (raw' : Raw) (members : String → Option Value) (replacement : String) : Prop :=
  ∃ members' h, codec.decode raw' = some ⟨.object members', h⟩ ∧
    members' "error" = some (.str replacement) ∧
    ∀ field, field ≠ "error" → members' field = members field

/-- The rewrite changes only the entries that match, in place, and of them only the error; without
`apply` it counts the same entries and changes none. -/
structure RewritesExactly (replacements : List (String × String)) (rawEntries : List Raw) : Prop where
  count : (rewriteDeadLetterErrors codec replacements true rawEntries).2 =
    (rewriteDeadLetterErrors codec replacements false rawEntries).2
  dry : (rewriteDeadLetterErrors codec replacements false rawEntries).1 = rawEntries
  length : (rewriteDeadLetterErrors codec replacements true rawEntries).1.length = rawEntries.length
  unchanged : ∀ (i : ℕ) raw, rawEntries[i]? = some raw →
    (∀ members replacement, ¬ IsOutdated codec replacements raw members replacement) →
      (rewriteDeadLetterErrors codec replacements true rawEntries).1[i]? = some raw
  replaced : ∀ (i : ℕ) raw members replacement, rawEntries[i]? = some raw →
    IsOutdated codec replacements raw members replacement →
      ∃ raw', (rewriteDeadLetterErrors codec replacements true rawEntries).1[i]? = some raw' ∧
        IsReplaced codec raw' members replacement

/-- The other fields of every entry that matches have values that `cjson` keeps. -/
def FieldsKept (replacements : List (String × String)) (rawEntries : List Raw) : Prop :=
  ∀ raw ∈ rawEntries, ∀ members replacement, IsOutdated codec replacements raw members replacement →
    ∀ field, field ≠ "error" → ∀ value, members field = some value → value.Kept

/-! ## The purge -/

lemma pushChunks_eq {chunkSize : ℕ} (hchunk : 0 < chunkSize) (survivors : List Raw) :
    pushChunks chunkSize survivors = survivors := by
  have hchunks : ∀ n, (List.range n).foldl
      (fun list c => list ++ (survivors.drop (c * chunkSize)).take chunkSize) [] =
        survivors.take (n * chunkSize) := by
    intro n
    induction n with
    | zero => simp
    | succ n ih =>
      rw [List.range_succ, List.foldl_append, ih, List.foldl_cons, List.foldl_nil, Nat.succ_mul,
        List.take_add]
  unfold pushChunks
  rw [hchunks, List.take_of_length_le]
  have hdiv := Nat.div_add_mod (survivors.length + chunkSize - 1) chunkSize
  have hmod := Nat.mod_lt (survivors.length + chunkSize - 1) hchunk
  rw [mul_comm]
  omega

lemma purgeTenantDeadLetters_eq (tenantId : String) (rawEntries : List Raw) :
    purgeTenantDeadLetters codec tenantId rawEntries =
      (rawEntries.filter fun raw => !isTenants codec tenantId raw,
        rawEntries.countP (isTenants codec tenantId)) := by
  have hloop : ∀ (entries survivors : List Raw) (removed : ℕ), entries.foldl
      (fun (survivors, removed) raw =>
        if isTenants codec tenantId raw then (survivors, removed + 1)
        else (survivors ++ [raw], removed)) (survivors, removed) =
      (survivors ++ entries.filter fun raw => !isTenants codec tenantId raw,
        removed + entries.countP (isTenants codec tenantId)) := by
    intro entries
    induction entries with
    | nil => simp
    | cons raw entries ih =>
      intro survivors removed
      rw [List.foldl_cons]
      by_cases hraw : isTenants codec tenantId raw = true
      · simp only [hraw, if_true, ih, List.filter_cons, List.countP_cons, Bool.not_true,
          Bool.false_eq_true, if_false]
        rw [Nat.add_assoc, Nat.add_comm 1]
      · simp only [hraw, if_false, ih, List.filter_cons, List.countP_cons, Bool.not_false, if_true,
          List.append_assoc, List.singleton_append, Bool.false_eq_true, Nat.add_zero]
  unfold purgeTenantDeadLetters
  rw [hloop]
  simp only [List.nil_append, Nat.zero_add, pushChunks_eq (show 0 < 200 by decide)]
  split
  · rfl
  · next hnone =>
    -- nothing was removed, so nothing is filtered out
    have hzero : rawEntries.countP (isTenants codec tenantId) = 0 := by omega
    rw [List.filter_eq_self.mpr]
    intro raw hraw
    have hnot := List.countP_eq_zero.mp hzero raw hraw
    simpa using hnot

lemma purgesExactly (rawEntries : List Raw) : PurgesExactly codec rawEntries where
  kept tenantId := purgeTenantDeadLetters_eq codec tenantId rawEntries
  idempotent tenantId := by
    rw [purgeTenantDeadLetters_eq, purgeTenantDeadLetters_eq, List.filter_filter,
      List.countP_filter]
    simp
  comm tenantId other := by
    simp only [purgeTenantDeadLetters_eq, List.filter_filter]
    exact List.filter_congr fun raw _ => Bool.and_comm _ _

/-! ## The rewrite -/

variable {codec} {replacements : List (String × String)} {rawEntries : List Raw} {raw : Raw}
  {members : String → Option Value} {replacement : String}

lemma rewriteDeadLetterErrors_eq (apply : Bool) :
    rewriteDeadLetterErrors codec replacements apply rawEntries =
      (if apply then rawEntries.map fun raw => (rewriteEntry codec replacements raw).getD raw
        else rawEntries,
        rawEntries.countP fun raw => (rewriteEntry codec replacements raw).isSome) := by
  have hloop : ∀ (rest done : List Raw) (matched : ℕ), (rest.zipIdx done.length).foldl
      (fun (list, matched) (raw, i) =>
        match rewriteEntry codec replacements raw with
        | none => (list, matched)
        | some new => (if apply then list.set i new else list, matched + 1)) (done ++ rest, matched) =
      (done ++ (if apply then rest.map fun raw => (rewriteEntry codec replacements raw).getD raw
        else rest),
        matched + rest.countP fun raw => (rewriteEntry codec replacements raw).isSome) := by
    intro rest
    induction rest with
    | nil => simp
    | cons raw rest ih =>
      intro done matched
      have hnext : ∀ (new : Raw), (done ++ [new]).length = done.length + 1 := by simp
      rw [List.zipIdx_cons, List.foldl_cons]
      cases hentry : rewriteEntry codec replacements raw with
      | none =>
        have hrest := ih (done ++ [raw]) matched
        rw [hnext, List.append_assoc, List.singleton_append] at hrest
        simp only [hentry]
        rw [hrest]
        cases apply <;> simp [hentry]
      | some new =>
        have hrest := ih (done ++ [if apply then new else raw]) (matched + 1)
        rw [hnext, List.append_assoc, List.singleton_append] at hrest
        simp only [hentry]
        have hset : (if apply = true then (done ++ raw :: rest).set done.length new
            else done ++ raw :: rest) = done ++ (if apply then new else raw) :: rest := by
          cases apply with
          | false => rfl
          | true => simp
        rw [hset, hrest]
        refine Prod.ext ?_ ?_
        · cases apply <;> simp [hentry]
        · simp only [List.countP_cons, hentry, Option.isSome_some, if_true]
          omega
  have hall := hloop rawEntries [] 0
  simpa [rewriteDeadLetterErrors] using hall

lemma rewriteEntry_of_matches (h : IsOutdated codec replacements raw members replacement) :
    ∃ hfinite : (Value.object members).Finite, rewriteEntry codec replacements raw =
      some (codec.encode (Document.setMember hfinite "error" replacement)) := by
  obtain ⟨hfinite, error, text, hdecode, herror, hfirst⟩ := h
  refine ⟨hfinite, ?_⟩
  unfold rewriteEntry
  simp only [hdecode, herror, hfirst, Option.map_some]

lemma rewriteEntry_eq_none
    (h : ∀ members replacement, ¬ IsOutdated codec replacements raw members replacement) :
    rewriteEntry codec replacements raw = none := by
  unfold rewriteEntry
  split
  · next members hfinite hdecode =>
    split
    · next error herror =>
      cases hfirst : firstReplacement replacements error with
      | none => rfl
      | some found =>
        exact absurd ⟨hfinite, error, found.1, hdecode, herror, hfirst⟩ (h members found.2)
    · rfl
  · rfl

lemma isReplaced_encode_iff (hfinite : (Value.object members).Finite) :
    IsReplaced codec (codec.encode (Document.setMember hfinite "error" replacement)) members
        replacement ↔
      ∀ field, field ≠ "error" → ∀ value, members field = some value → value.Kept := by
  have hdecode : codec.decode (codec.encode (Document.setMember hfinite "error" replacement)) =
      some (Document.setMember hfinite "error" replacement).rewritten := codec.decode_encode _
  have hmember : ∀ field, field ≠ "error" →
      Value.rewrittenMember (Function.update members "error" (some (.str replacement)) field) =
        Value.rewrittenMember (members field) :=
    fun field hfield => by rw [Function.update_of_ne hfield]
  constructor
  · rintro ⟨members', h, heq, -, hfields⟩ field hfield
    rw [hdecode, Option.some.injEq] at heq
    have heq := congrArg Subtype.val heq
    rw [Document.rewritten_setMember, Value.object.injEq] at heq
    rw [← Value.rewrittenMember_eq_iff, ← hmember field hfield]
    exact (congrFun heq field).trans (hfields field hfield)
  · intro hkept
    have hvalue := Document.rewritten_setMember hfinite "error" replacement
    refine ⟨_, hvalue ▸ (Document.setMember hfinite "error" replacement).rewritten.2,
      hdecode.trans (congrArg some (Subtype.ext hvalue)), ?_, fun field hfield => ?_⟩
    · rw [Function.update_self]
      rfl
    · rw [hmember field hfield, Value.rewrittenMember_eq_iff]
      exact hkept field hfield

lemma getElem?_rewriteDeadLetterErrors {i : ℕ} (h : rawEntries[i]? = some raw) :
    (rewriteDeadLetterErrors codec replacements true rawEntries).1[i]? =
      some ((rewriteEntry codec replacements raw).getD raw) := by
  rw [rewriteDeadLetterErrors_eq]
  simp only [if_true, List.getElem?_map, h, Option.map_some]

lemma RewritesExactly.fieldsKept (h : RewritesExactly codec replacements rawEntries) :
    FieldsKept codec replacements rawEntries := by
  intro raw hraw members replacement hmatches
  obtain ⟨i, hi⟩ := List.getElem?_of_mem hraw
  obtain ⟨raw', hraw', hreplaced⟩ := h.replaced i raw members replacement hi hmatches
  obtain ⟨hfinite, hentry⟩ := rewriteEntry_of_matches hmatches
  rw [getElem?_rewriteDeadLetterErrors hi, hentry, Option.getD_some, Option.some.injEq] at hraw'
  rw [← hraw'] at hreplaced
  exact (isReplaced_encode_iff hfinite).mp hreplaced

lemma FieldsKept.rewritesExactly (h : FieldsKept codec replacements rawEntries) :
    RewritesExactly codec replacements rawEntries := by
  refine ⟨?_, ?_, ?_, fun i raw hi hnone => ?_, fun i raw members replacement hi hmatches => ?_⟩
  · rw [rewriteDeadLetterErrors_eq, rewriteDeadLetterErrors_eq]
  · rw [rewriteDeadLetterErrors_eq]
    rfl
  · rw [rewriteDeadLetterErrors_eq]
    exact List.length_map _
  · rw [getElem?_rewriteDeadLetterErrors hi, rewriteEntry_eq_none hnone, Option.getD_none]
  · obtain ⟨hfinite, hentry⟩ := rewriteEntry_of_matches hmatches
    refine ⟨_, getElem?_rewriteDeadLetterErrors hi, ?_⟩
    rw [hentry, Option.getD_some]
    exact (isReplaced_encode_iff hfinite).mpr
      (h raw (List.mem_of_getElem? hi) members replacement hmatches)

/-- **The dead-letter list.**  The purge is exact, and the rewrite is exact if and only if `cjson`
keeps the other fields of the entries that match. -/
theorem deadLetters_exact_iff (codec : Codec Raw) (replacements : List (String × String))
    (rawEntries : List Raw) :
    PurgesExactly codec rawEntries ∧ RewritesExactly codec replacements rawEntries ↔
      FieldsKept codec replacements rawEntries :=
  ⟨fun h => h.2.fieldsKept, fun h => ⟨purgesExactly codec rawEntries, h.rewritesExactly⟩⟩

/-! ## Recorded entries -/

/-- The members of the JSON of a `DeadLetterEntry`. -/
def entryMembers (functionName : String) (tenantId : Option String) (error : String) (attempts : ℕ)
    (deadLetteredAt : ℚ) (field : String) : Option Value :=
  if field = "function_name" then some (.str functionName)
  else if field = "tenant_id" then some (tenantId.elim .null .str)
  else if field = "error" then some (.str error)
  else if field = "attempts" then some (.num attempts)
  else if field = "dead_lettered_at" then some (.num deadLetteredAt)
  else none

lemma finite_entryMembers (functionName : String) (tenantId : Option String) (error : String)
    (attempts : ℕ) (deadLetteredAt : ℚ) :
    (Value.object (entryMembers functionName tenantId error attempts deadLetteredAt)).Finite := by
  refine .object ["function_name", "tenant_id", "error", "attempts", "dead_lettered_at"]
    (fun key hkey => ?_) fun key value hvalue => ?_
  · unfold entryMembers at hkey
    split_ifs at hkey <;> simp_all
  · unfold entryMembers at hvalue
    split_ifs at hvalue
    · cases hvalue
      exact .str _
    · cases hvalue
      cases tenantId with
      | none => exact .null
      | some text => exact .str text
    · cases hvalue
      exact .str _
    · cases hvalue
      exact .num _
    · cases hvalue
      exact .num _

theorem entryMembers_kept_iff {functionName error : String} {tenantId : Option String}
    {attempts : ℕ} {deadLetteredAt : ℚ} :
    (∀ field, field ≠ "error" → ∀ value,
      entryMembers functionName tenantId error attempts deadLetteredAt field = some value →
        value.Kept) ↔
      HasSignificant attempts ∧ HasSignificant deadLetteredAt := by
  constructor
  · intro h
    have hattempts := h "attempts" (by decide) (.num attempts) rfl
    have hdeadLetteredAt := h "dead_lettered_at" (by decide) (.num deadLetteredAt) rfl
    cases hattempts with
    | num hattempts =>
      cases hdeadLetteredAt with
      | num hdeadLetteredAt => exact ⟨hattempts, hdeadLetteredAt⟩
  · rintro ⟨hattempts, hdeadLetteredAt⟩ field hfield value hvalue
    unfold entryMembers at hvalue
    split_ifs at hvalue
    · cases hvalue
      exact .str _
    · cases hvalue
      cases tenantId with
      | none => exact .null
      | some text => exact .str text
    · cases hvalue
      exact .num hattempts
    · cases hvalue
      exact .num hdeadLetteredAt

def spelled : Codec (Option Document) where
  decode := id
  encode document := some document.rewritten
  decode_encode _ := rfl

def webhookEntry : Option Document :=
  some ⟨_, finite_entryMembers "deliver_webhook" (some "acme")
    "InvalidWebhookUrlError: Invalid webhook URL: http://host" 5 (1700000000123456 / 1000000)⟩

/-- Its microseconds are lost. -/
theorem webhookEntry_not_rewritesExactly :
    ¬ RewritesExactly spelled [("InvalidWebhookUrlError: Invalid webhook URL: ",
      "InvalidWebhookUrlError: redacted")] [webhookEntry] := by
  intro h
  have hkept := h.fieldsKept webhookEntry List.mem_cons_self _ "InvalidWebhookUrlError: redacted"
    ⟨_, _, "InvalidWebhookUrlError: Invalid webhook URL: ", rfl, rfl, by decide +kernel⟩
  have htime := (entryMembers_kept_iff.mp hkept).2
  exact absurd htime (by decide +kernel)

end SaasOs.Jobs
