import RecordFilter.Proofs.Binary64.JsonNumber
import RecordFilter.Proofs.Json.ReadBack
import RecordFilter.Proofs.Matrix.Stability

/-! Matrices on the way through indented text. The text of a document is read as the same matrices
as the document exactly when the reader of texts takes the document back unchanged, or when neither
of the two is read as a matrix.
-/

namespace RecordFilter

open RecordFilter.Json (Numeral)

/-- A constant that comes from a document is well-formed. -/
def Scalar.WellFormed : Scalar → Prop
  | .json document => document.WellFormed
  | _ => True

/-- The constants of an operand are well-formed. -/
def Operand.WellFormed : Operand → Prop
  | .single scalar => scalar.WellFormed
  | .array items => ∀ item ∈ items, item.WellFormed
  | _ => True

/-- All constants of a matrix are well-formed. -/
def Matrix.WellFormed (m : Matrix) : Prop :=
  ∀ n ∈ m.nodes, ∀ c ∈ n.conditions, c.operand.WellFormed

theorem Matrix.wellFormed_node_iff {op : LogicalOperator} {conditions : List Condition}
    {nested : List Matrix}
    : (node op conditions nested).WellFormed
      ↔ (∀ c ∈ conditions, c.operand.WellFormed) ∧ ∀ m ∈ nested, m.WellFormed :=
  forall_nodes_node_iff

theorem Scalar.wellFormed_of_toJson {scalar : Scalar} {json : Json} (formed : scalar.WellFormed)
    (written : scalar.toJson = .ok json)
    : json.WellFormed := by
  cases scalar with
  | bool value =>
      cases written
      exact .bool value
  | int n =>
      cases written
      rw [← Decimal.text_ofInt64, ← Decimal.text_numeral]
      exact .number _
  | float x =>
      cases x with
      | finite x =>
          cases written
          obtain ⟨n, text, _⟩ := x.exists_numeral
          rw [text]
          exact .number n
      | nan | infinity _ => cases written
  | decimal d =>
      cases written
      rw [← Decimal.text_numeral]
      exact .number _
  | string _ | timestamp _ | uuid _ =>
      cases written
      exact .string _
  | json document =>
      cases written
      exact formed

theorem Condition.wellFormed_of_payload {c : Condition} {json : Json}
    (formed : c.operand.WellFormed) (written : c.payload = .ok json)
    : json.WellFormed := by
  cases takes : c.operator.isNullCheck with
  | true =>
      rw [payload_of_isNullCheck takes] at written
      cases written
      exact .bool true
  | false =>
      rw [payload_eq_ok_iff takes] at written
      generalize c.operand = operand at formed written
      cases written with
      | column name => exact .array (by simpa using .string name)
      | null => exact .null
      | pattern text => exact .string text
      | single written => exact Scalar.wellFormed_of_toJson formed written
      | array written =>
          have each := forall₂_imp_of_mem written fun item member _ written =>
            Scalar.wellFormed_of_toJson (formed item member) written
          exact .array fun json member =>
            (exists_forall₂_right_iff.mp ⟨_, each⟩ json member).choose_spec

theorem Json.wellFormed_singleton {name : String} {json : Json} (formed : json.WellFormed)
    : (object [(name, json)]).WellFormed :=
  .object (List.pairwise_singleton _ _) (by simpa using formed)

theorem Condition.wellFormed_of_toJson {c : Condition} {json : Json}
    (formed : c.operand.WellFormed) (written : c.toJson = .ok json)
    : json.WellFormed := by
  obtain ⟨payload, held, same⟩ := bind_eq_ok_iff.mp written
  cases same
  exact Json.wellFormed_singleton
    (Json.wellFormed_singleton (wellFormed_of_payload formed held))

theorem LogicalOperator.code_ne_numberName (op : LogicalOperator) : op.code ≠ Json.numberName := by
  cases op <;> decide

namespace Matrix

variable {limit levels : Nat} {m : Matrix} {json : Json} {text : String}

/-- Matrices with well-formed constants have well-formed documents, by induction on the levels. -/
theorem wellFormed_of_toJsonWithin (formed : m.WellFormed)
    (written : m.toJsonWithin limit levels = .ok json)
    : json.WellFormed := by
  induction levels generalizing m json with
  | zero => cases written
  | succ levels ih =>
      obtain ⟨op, conditions, nested⟩ := m
      by_cases parts : conditions ≠ [] ∨ nested ≠ []
      · obtain ⟨ofConditions, ofNested, hc, hn, rfl⟩ :=
          (toJsonWithin_node_eq_ok_iff parts).mp written
        rw [wellFormed_node_iff] at formed
        have conditionsFormed := forall₂_imp_of_mem hc fun c member _ written =>
          Condition.wellFormed_of_toJson (formed.1 c member) written
        have nestedFormed := forall₂_imp_of_mem hn fun m member _ written =>
          ih (formed.2 m member) written
        refine Json.wellFormed_singleton (.array fun element member => ?_)
        rcases List.mem_append.mp member with condition | node
        · exact (exists_forall₂_right_iff.mp ⟨_, conditionsFormed⟩ element condition).choose_spec
        · exact (exists_forall₂_right_iff.mp ⟨_, nestedFormed⟩ element node).choose_spec
      · obtain ⟨rfl, rfl⟩ : conditions = [] ∧ nested = [] := by simpa using parts
        cases written
        exact .object .nil (by simp)

/-- Of the documents that a matrix is read from, either all or none have plain names; by induction
on the tree.
-/
theorem ReadFrom.hasPlainNames {json' : Json} (h : m.ReadFrom json) (h' : m.ReadFrom json')
    (plain : json'.HasPlainNames)
    : json.HasPlainNames := by
  induction m using Matrix.induction generalizing json json' with
  | step op conditions nested ih =>
      cases h with
      | empty => exact .object (by decide) (by simp)
      | @node _ _ _ elements hc hn =>
          have code : ¬Json.IsNumberObject [(op.code, .array elements)] := by
            intro reserved
            exact op.code_ne_numberName (Option.some.inj reserved)
          rw [Json.hasPlainNames_object_iff, List.forall_mem_singleton,
            Json.hasPlainNames_array_iff]
          refine ⟨code, fun element member => ?_⟩
          obtain ⟨conditionsPlain, nodesPlain⟩
              : (∀ element ∈ Json.conditionElements elements, element.HasPlainNames)
                ∧ ∀ element ∈ Json.nodeElements elements, element.HasPlainNames := by
            cases h' with
            | empty =>
                rw [List.forall₂_nil_left_iff.mp hc, List.forall₂_nil_left_iff.mp hn]
                simp
            | @node _ _ _ elements' hc' hn' =>
                rw [Json.hasPlainNames_object_iff, List.forall_mem_singleton,
                  Json.hasPlainNames_array_iff] at plain
                constructor
                · -- A condition is written as one element only, whichever it is read from.
                  refine forall_of_shared_partners hc hc'
                    (fun c _ element other read read' plain => ?_)
                    fun element member => plain.2 element (List.mem_of_mem_filter member)
                  rw [Except.ok.inj (read.toJson_eq.symm.trans read'.toJson_eq)]
                  exact plain
                · exact forall_of_shared_partners hn hn'
                    (fun n member element other read read' plain => ih n member read read' plain)
                    fun element member => plain.2 element (List.mem_of_mem_filter member)
          cases node : element.isNode with
          | true => exact nodesPlain element (List.mem_filter.mpr ⟨member, node⟩)
          | false =>
              exact conditionsPlain element (List.mem_filter.mpr ⟨member, by simp [node]⟩)

/-- The text of a document is read as the matrices that are read from what the document is read back
as.
-/
theorem ofJsonText_eq_ok_iff (formed : json.WellFormed) {members : List (String × Json)}
    (object : json = .object members) {m' : Matrix}
    : ofJsonText json.indentedText limit = .ok m'
      ↔ ∃ result,
          json.readBack? Json.nestingLimit = some result ∧ ofJson result limit = .ok m' := by
  have visible : Text.isBlankText json.indentedText = false := by
    rw [object, Text.isBlankText, Json.indentedText, String.toList_ofList]
    cases members <;> rfl
  rw [ofJsonText, visible, ← formed.toOption_parse]
  cases Json.parse json.indentedText <;> simp [Except.toOption, reject]

/-- The text of a matrix is read as the same matrices as its document exactly when the reader of
texts takes the document back unchanged, or when neither of the two is read at all.
-/
theorem ofJsonText_agrees_iff (formed : m.WellFormed) (written : m.toJson limit = .ok json)
    (spelled : m.toJsonText limit = .ok text)
    : (∀ m', ofJsonText text limit = .ok m' ↔ ofJson json limit = .ok m')
      ↔ json.nesting ≤ Json.nestingLimit ∧ json.HasPlainNames
        ∨ ∀ m', ofJsonText text limit ≠ .ok m' ∧ ofJson json limit ≠ .ok m' := by
  have jsonFormed := wellFormed_of_toJsonWithin formed written
  obtain ⟨members, object, _⟩ := isNode_of_toJsonWithin written
  obtain rfl : json.indentedText = text := by
    rw [toJsonText, written] at spelled
    exact Except.ok.inj spelled
  constructor
  · intro agree
    by_cases neither
        : ∀ m', ofJsonText json.indentedText limit ≠ .ok m' ∧ ofJson json limit ≠ .ok m'
    · exact .inr neither
    · obtain ⟨m', read⟩ : ∃ m', ofJson json limit = .ok m' := by
        by_contra none
        refine neither fun m' => ⟨fun read => none ⟨m', (agree m').mp read⟩, fun read => ?_⟩
        exact none ⟨m', read⟩
      obtain ⟨result, back, readBack⟩ :=
        (ofJsonText_eq_ok_iff jsonFormed object).mp ((agree m').mpr read)
      -- The reader of texts returns plain names only, and so has all that is read as the same.
      have plain : json.HasPlainNames :=
        (readFrom_of_ofJsonWithin read).hasPlainNames (readFrom_of_ofJsonWithin readBack)
          (jsonFormed.of_readBack? back).2
      rw [plain.readBack?_eq] at back
      refine .inl ⟨?_, plain⟩
      by_contra deep
      rw [if_neg deep] at back
      cases back
  · intro h m'
    rcases h with ⟨shallow, plain⟩ | neither
    · rw [ofJsonText_eq_ok_iff jsonFormed object, plain.readBack?_eq, if_pos shallow]
      simp
    · exact ⟨fun read => absurd read (neither m').1, fun read => absurd read (neither m').2⟩

/-- A disjunction of a comparison and nothing. -/
theorem ofJsonText_agrees_iff_of_adults
    : let condition : Condition := ⟨"age", .greaterThan, .single (.int 17), by decide⟩
      let m := node .or [condition] [empty]
      let adult := Json.object [("age", .object [("_gt", .number "17")])]
      let json := Json.object [("_or", .array [adult, .object []])]
      m.WellFormed
      ∧ m.toJson 2 = .ok json
      ∧ m.toJsonText 2 = .ok json.indentedText
      ∧ ∀ m', ofJsonText json.indentedText 2 = .ok m' ↔ ofJson json 2 = .ok m' := by
  intro condition m adult json
  have formed : m.WellFormed := by
    simp [m, wellFormed_node_iff, Operand.WellFormed, Scalar.WellFormed, condition, empty]
  have written : m.toJson 2 = .ok json := rfl
  have spelled : m.toJsonText 2 = .ok json.indentedText := rfl
  have plain : json.HasPlainNames := by
    simp [json, adult, Json.HasPlainNames.number, Json.IsNumberObject, Json.numberName]
  exact ⟨formed, written, spelled,
    (ofJsonText_agrees_iff formed written spelled).mpr (.inl ⟨by decide, plain⟩)⟩

/-- So many conjunctions around a conjunction of one condition, with nothing else in them. -/
def conjunctions (condition : Condition) : Nat → Matrix
  | 0 => node .and [condition] []
  | depth + 1 => node .and [] [conjunctions condition depth]

theorem depth_conjunctions (c : Condition) (depth : Nat)
    : (conjunctions c depth).depth = depth + 1 := by
  induction depth with
  | zero => rfl
  | succ depth ih =>
      rw [conjunctions, Matrix.depth, maxDepth, maxDepth, ih]
      omega

theorem wellFormed_conjunctions {c : Condition} (formed : c.operand.WellFormed) (depth : Nat)
    : (conjunctions c depth).WellFormed := by
  induction depth with
  | zero => simpa [conjunctions, wellFormed_node_iff] using formed
  | succ depth ih => simpa [conjunctions, wellFormed_node_iff] using ih

/-- The document of conjunctions nests two containers for each of them; by induction on their
number.
-/
theorem exists_document_of_conjunctions {c : Condition} {element : Json}
    (read : c.ReadFrom element) (plain : element.HasPlainNames) (depth : Nat)
    : ∃ json,
        (∀ limit levels,
          depth < levels → (conjunctions c depth).toJsonWithin limit levels = .ok json)
        ∧ (conjunctions c depth).ReadFrom json
        ∧ json.isNode = true
        ∧ json.nesting = 2 * depth + 2 + element.nesting
        ∧ json.HasPlainNames := by
  have code : ¬Json.IsNumberObject [("_and", .null)] := by decide
  have condition : element.isNode = false := by
    obtain ⟨free, payload, rfl, _⟩ := read
    rw [← Bool.not_eq_true, Json.isNode_singleton_iff]
    exact fun ⟨op, same⟩ => free op same
  induction depth with
  | zero =>
      refine ⟨.object [("_and", .array [element])], fun limit levels enough => ?_, ?_, rfl, ?_, ?_⟩
      · obtain ⟨levels, rfl⟩ := Nat.exists_eq_add_of_lt enough
        rw [conjunctions, toJsonWithin_node_eq_ok_iff (by simp)]
        exact ⟨[element], [], .cons read.toJson_eq .nil, .nil, rfl⟩
      · refine .node .and ?_ ?_
        · rw [Json.conditionElements_cons_of_not_isNode condition]
          exact .cons read .nil
        · rw [Json.nodeElements_cons_of_not_isNode condition]
          exact .nil
      · simp [Json.nesting, Json.nestingOfMembers, Json.nestingOfItems]
        omega
      · simpa using ⟨code, plain⟩
  | succ depth ih =>
      obtain ⟨json, written, reads, node, nesting, plain⟩ := ih
      refine ⟨.object [("_and", .array [json])], fun limit levels enough => ?_, ?_, rfl, ?_, ?_⟩
      · obtain ⟨levels, rfl⟩ := Nat.exists_eq_add_of_lt enough
        rw [conjunctions, toJsonWithin_node_eq_ok_iff (by simp)]
        exact ⟨[], [json], .nil, .cons (written _ _ (by omega)) .nil, rfl⟩
      · refine .node .and ?_ ?_
        · rw [Json.conditionElements_cons_of_isNode node]
          exact .nil
        · rw [Json.nodeElements_cons_of_isNode node]
          exact .cons reads .nil
      · simp [Json.nesting, Json.nestingOfMembers, Json.nestingOfItems, nesting]
        omega
      · simpa using ⟨code, plain⟩

/-- Conjunctions that nest more containers than the limit of the reader are written and read back as
documents, whatever their number, and never read from their text.
-/
theorem ofJsonText_conjunctions_ne_ok {c : Condition} {element : Json} {depth : Nat}
    (read : c.ReadFrom element) (formed : c.operand.WellFormed) (plain : element.HasPlainNames)
    (deep : Json.nestingLimit < 2 * depth + 2 + element.nesting) (fits : depth < limit)
    : ∃ json,
        (conjunctions c depth).toJson limit = .ok json
        ∧ ofJson json limit = .ok (conjunctions c depth)
        ∧ ∀ m', ofJsonText json.indentedText limit ≠ .ok m' := by
  obtain ⟨json, written, reads, node, nesting, plain⟩ :=
    exists_document_of_conjunctions read plain depth
  have jsonFormed :=
    wellFormed_of_toJsonWithin (wellFormed_conjunctions formed depth) (written limit limit fits)
  obtain ⟨members, object, _⟩ := isNode_of_toJsonWithin (written limit limit fits)
  refine ⟨json, written limit limit fits, ?_, fun m' taken => ?_⟩
  · exact ofJsonWithin_eq_ok_iff_readFrom.mpr ⟨reads, (depth_conjunctions c depth).trans_le fits⟩
  · obtain ⟨result, back, _⟩ := (ofJsonText_eq_ok_iff jsonFormed object).mp taken
    rw [plain.readBack?_eq, nesting, if_neg (by omega)] at back
    cases back

/-- The document of sixty-three conjunctions around a test for null has one level of containers more
than the reader of texts takes.
-/
theorem ofJsonText_of_sixty_three_conjunctions
    : let condition : Condition := ⟨"a", .equal, .null, by decide⟩
      ∃ json,
        (conjunctions condition 62).toJson 100 = .ok json
        ∧ ofJson json 100 = .ok (conjunctions condition 62)
        ∧ ∀ m', ofJsonText json.indentedText 100 ≠ .ok m' := by
  intro condition
  have read : condition.ReadFrom (.object [("a", .object [("_eq", .null)])]) := by
    refine ⟨?_, .null, rfl, .value rfl rfl .null⟩
    exact fun op => by cases op <;> decide
  exact ofJsonText_conjunctions_ne_ok read trivial
    (by simp [Json.HasPlainNames.null, Json.IsNumberObject, Json.numberName]) (by decide)
    (by decide)

end Matrix

end RecordFilter
