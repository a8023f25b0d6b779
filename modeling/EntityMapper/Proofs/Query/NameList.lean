import EntityMapper.Proofs.Query.Document
import EntityMapper.Proofs.Query.Written
import EntityMapper.Proofs.Text.Blank
import EntityMapper.Proofs.Text.Split

/-!
# Two forms of one list of names

Names without commas are the same names, whether they are written as one text or as a list. So a query
asks for the same, whichever form its lists have, on every level.
-/

namespace EntityMapper

namespace NameList

variable {names : List String} {list : NameList} {name : String}

/-- No name has a comma in it. -/
def NoCommas (names : List String) : Prop := ∀ name ∈ names, ',' ∉ name.toList

/-- The names as one text, with commas between them. -/
def joined (names : List String) : String := ",".intercalate names

theorem toList_joined (h : NoCommas names) : toList (.text (joined names)) = toList (.items names) := by
  cases names with
  | nil => decide
  | cons first rest =>
    have hsplit : Text.split ',' (joined (first :: rest)) = first :: rest :=
      Text.split_intercalate (List.cons_ne_nil _ _) h
    rw [toList, hsplit, toList]

/-- A name that counts is not empty and has no blanks around it. -/
theorem trimmed_of_mem_toList (h : name ∈ list.toList) : name ≠ "" ∧ Text.Trimmed name := by
  have htrimmed : ∃ given : List String, name ∈ (given.map Text.trim).filter (· ≠ "") := by
    cases list with
    | text s => exact ⟨_, h⟩
    | items names => exact ⟨_, h⟩
  obtain ⟨given, hname⟩ := htrimmed
  obtain ⟨hmem, hne⟩ := List.mem_filter.mp hname
  obtain ⟨text, -, rfl⟩ := List.mem_map.mp hmem
  exact ⟨by simpa using hne, Text.trimmed_trim text⟩

theorem toList_items (h : ∀ name ∈ names, name ≠ "" ∧ Text.Trimmed name) :
    toList (.items names) = names := by
  have htrim : names.map Text.trim = names := by
    rw [List.map_congr_left fun name hname => (h name hname).2.trim_eq_self, List.map_id']
  rw [toList, htrim, List.filter_eq_self]
  exact fun name hname => by simpa using (h name hname).1

end NameList

/-! ## Documents -/

open NameList (NoCommas joined)

/-- Where names stand in a query document. -/
inductive NamesPlace where
  | select
  | join
  | relations

namespace NamesPlace

def key : NamesPlace → String
  | select => "select"
  | join => "join"
  | relations => "with"

/-- The document with these names at the place. -/
def put (place : NamesPlace) (list : NameList) : QueryDocument → QueryDocument
  | .mk m nested =>
    match place with
    | select => .mk { m with select := some list } nested
    | join => .mk { m with join := some list } nested
    | relations => .mk m (some (.names list))

end NamesPlace

/-- The documents differ in one list of names, which is one text in the first and a list in the second,
at any depth. -/
inductive QueryDocument.Respelled : QueryDocument → QueryDocument → Prop where
  | names {names : List String} (h : NoCommas names) (place : NamesPlace) (d : QueryDocument) :
    Respelled (place.put (.text (joined names)) d) (place.put (.items names) d)
  | nested (m : QueryMembers) (before after : List (String × QueryDocument)) (name : String)
    {d d' : QueryDocument} : Respelled d d' →
    Respelled (.mk m (some (.nested (before ++ (name, d) :: after))))
      (.mk m (some (.nested (before ++ (name, d') :: after))))

namespace Query

open QueryDocument (Respelled)

variable {o : QueryOptions} {d d' : QueryDocument}

theorem readNested_congr {name : String} (h : read o d = read o d')
    (before after : List (String × QueryDocument)) :
    readNested o (before ++ (name, d) :: after) = readNested o (before ++ (name, d') :: after) := by
  induction before with
  | nil => rw [List.nil_append, List.nil_append, readNested, readNested, h]
  | cons entry before ih =>
    obtain ⟨other, q⟩ := entry
    rw [List.cons_append, List.cons_append, readNested, readNested, ih]

/-- Both documents ask for the same, or are refused for the same. -/
theorem read_respelled (h : Respelled d d') (o : QueryOptions) : read o d = read o d' := by
  induction h with
  | names h place d =>
    obtain ⟨m, nested⟩ := d
    cases place <;>
      simp only [NamesPlace.put, read, readLevel, readRelations, Option.map_some,
        NameList.toList_joined h]
  | nested m before after name _ ih =>
    rw [read, read, readRelations, readRelations, readNested_congr ih]

end Query

/-! ## Written documents -/

/-- The objects differ in one list of names, which is one text in the first and a list in the second, at
any depth. -/
inductive QueryDocument.RespelledJson : Json → Json → Prop where
  | names {names : List String} (h : NoCommas names) (place : NamesPlace) (members : Dict Json) :
    RespelledJson (.obj (members.insert place.key (.str (joined names))))
      (.obj (members.insert place.key (.arr (names.map .str))))
  | nested (members queries : Dict Json) (name : String) {doc doc' : Json} :
    RespelledJson doc doc' →
    RespelledJson (.obj (members.insert "with" (.obj (queries.insert name doc))))
      (.obj (members.insert "with" (.obj (queries.insert name doc'))))

namespace QueryDocument

open Document

variable {j : Json} {list : NameList} {key : String} {doc doc' : Json}

theorem isNull_of_names (hj : NameList.ofJson? j = some list) : j.isNull = false := by
  cases j with
  | null => cases hj
  | _ => rfl

theorem relations?_of_names (hj : NameList.ofJson? j = some list) :
    relations? j = some (some (.names list)) := by
  cases j with
  | str s =>
    cases hj
    rfl
  | arr items =>
    obtain ⟨names, hnames, rfl⟩ := Option.map_eq_some_iff.mp hj
    rw [relations?, hnames]
    rfl
  | _ => cases hj

/-- What stands under `with` is read by itself. -/
theorem ofJson?_insert_with (members : Dict Json) (j : Json) :
    ofJson? (.obj (members.insert "with" j)) = (relations? j).bind fun nested =>
      (ofJson? (.obj (members.erase "with"))).map fun | .mk m _ => .mk m nested := by
  have hmembers : QueryMembers.read? (memberNames.map (Dict.get? (members.insert "with" j)))
      = QueryMembers.read? (memberNames.map (Dict.get? (members.erase "with"))) := by
    simp [memberNames, Dict.get?_insert_eq_erase, QueryMembers.read?]
  rw [ofJson?_obj, ofJson?_obj, hmembers, Dict.get?_insert_self, Dict.get?_erase_self, Option.map_some,
    Option.getD_some]
  -- Which of the two is read first does not matter, as both must be read.
  cases QueryMembers.read? (memberNames.map (Dict.get? (members.erase "with"))) <;>
    cases relations? j <;> rfl

theorem ofJson?_insert_names (hj : NameList.ofJson? j = some list) (place : NamesPlace)
    (members : Dict Json) : ofJson? (.obj (members.insert place.key j))
      = (ofJson? (.obj (members.erase place.key))).map (place.put list) := by
  have hread : optional? NameList.ofJson? (some j) = some (some list) := by
    change nullable? NameList.ofJson? j = _
    rw [nullable?_eq (isNull_of_names hj), hj]
    rfl
  have hnone : optional? NameList.ofJson? none = some none := rfl
  cases place with
  | select | join =>
    rw [ofJson?_obj, ofJson?_obj]
    simp [NamesPlace.key, NamesPlace.put, memberNames, QueryMembers.read?, Dict.get?_insert_eq_erase,
      Dict.get?_erase_self, hread, hnone, Option.bind_assoc, Option.map_bind, Function.comp_def]
  | relations =>
    rw [NamesPlace.key, ofJson?_insert_with, relations?_of_names hj]
    rfl

theorem nested?_middle (before : List (String × Json)) (name : String) (doc : Json)
    (after : List (String × Json)) :
    nested? (before ++ (name, doc) :: after) = (nested? before).bind fun first =>
      (ofJson? doc).bind fun q => (nested? after).map fun last => first ++ (name, q) :: last := by
  induction before with
  | nil =>
    rw [List.nil_append, nested?, nested?]
    cases ofJson? doc <;> cases nested? after <;> rfl
  | cons entry before ih =>
    obtain ⟨other, j⟩ := entry
    rw [List.cons_append, nested?, nested?, ih]
    cases ofJson? j <;> cases nested? before <;> cases ofJson? doc <;> cases nested? after <;> rfl

/-- Both are refused, or are read as documents that differ in the same list. -/
theorem rel_ofJson? (h : RespelledJson doc doc') : Option.Rel Respelled (ofJson? doc) (ofJson? doc') := by
  induction h with
  | @names names h place members =>
    have htext : NameList.ofJson? (.str (joined names)) = some (.text (joined names)) := rfl
    have hitems : NameList.ofJson? (.arr (names.map .str)) = some (.items names) :=
      NameList.ofJson?_toJson (.items names)
    rw [ofJson?_insert_names htext, ofJson?_insert_names hitems]
    cases ofJson? (.obj (members.erase place.key)) with
    | none => exact .none
    | some d => exact .some (.names h place d)
  | @nested members queries name doc doc' _ ih =>
    obtain ⟨before, after, hinsert⟩ := Dict.exists_insert_eq queries name
    rw [ofJson?_insert_with, ofJson?_insert_with, relations?, relations?, hinsert, hinsert,
      nested?_middle, nested?_middle]
    cases nested? before with
    | none => exact .none
    | some first =>
      generalize ofJson? doc = x, ofJson? doc' = y at ih ⊢
      cases ih with
      | none => exact .none
      | some hd =>
        cases nested? after with
        | none => exact .none
        | some last =>
          cases ofJson? (.obj (members.erase "with")) with
          | none => exact .none
          | some d =>
            obtain ⟨m, _⟩ := d
            exact .some (.nested m first last name hd)

/-- The member that differs does so in objects that have no other member, too. -/
theorem RespelledJson.exists_member (h : RespelledJson doc doc') :
    ∃ (members : Dict Json) (key : String) (j j' : Json), doc = .obj (members.insert key j)
      ∧ doc' = .obj (members.insert key j') ∧ RespelledJson (.obj [(key, j)]) (.obj [(key, j')]) := by
  cases h with
  | names h place members => exact ⟨members, _, _, _, rfl, rfl, .names h place []⟩
  | nested members queries name h => exact ⟨members, _, _, _, rfl, rfl, .nested [] queries name h⟩

theorem checkMember_respelled {j' : Json} (h : RespelledJson (.obj [(key, j)]) (.obj [(key, j')])) :
    checkMember (key, j) = checkMember (key, j') := by
  have hread : (ofJson? (.obj [(key, j)])).isSome = (ofJson? (.obj [(key, j')])).isSome := by
    have hrel := rel_ofJson? h
    generalize ofJson? (.obj [(key, j)]) = x, ofJson? (.obj [(key, j')]) = y at hrel ⊢
    cases hrel <;> rfl
  unfold checkMember
  rw [hread]

end QueryDocument

/-- Both documents ask for the same, or are refused for the same. -/
theorem Query.ofJson_respelled {doc doc' : Json} (h : QueryDocument.RespelledJson doc doc')
    (o : QueryOptions) : ofJson o doc = ofJson o doc' := by
  have hread := QueryDocument.rel_ofJson? h
  obtain ⟨members, key, j, j', rfl, rfl, hmember⟩ := h.exists_member
  have hcheck : (members.insert key j).forM QueryDocument.checkMember
      = (members.insert key j').forM QueryDocument.checkMember := by
    obtain ⟨before, after, hinsert⟩ := Dict.exists_insert_eq members key
    rw [hinsert, hinsert]
    exact Result.forM_middle (QueryDocument.checkMember_respelled hmember) before after
  unfold ofJson
  rw [QueryDocument.ofObject_obj, QueryDocument.ofObject_obj, hcheck]
  cases (members.insert key j').forM QueryDocument.checkMember with
  | error e => rfl
  | ok _ =>
    generalize QueryDocument.ofJson? (.obj (members.insert key j)) = x,
      QueryDocument.ofJson? (.obj (members.insert key j')) = y at hread ⊢
    cases hread with
    | none => rfl
    | some hd => exact read_respelled hd o

/-- Names without commas are the same, as one text with commas between them and as a list. What counts
of a list is not empty and has no blanks around it, and as a list it is taken as it is. So a query asks
for the same, and a document is read as the same query or refused for the same, when a list on any level
is written in the other form. -/
theorem NameList.forms_agree :
    (∀ names, NoCommas names → toList (.text (joined names)) = toList (.items names))
      ∧ (∀ list : NameList, ∀ name ∈ list.toList, name ≠ "" ∧ Text.Trimmed name)
      ∧ (∀ list : NameList, toList (.items list.toList) = list.toList)
      ∧ (∀ d d' : QueryDocument, d.Respelled d' → ∀ o, Query.read o d = Query.read o d')
      ∧ ∀ doc doc', QueryDocument.RespelledJson doc doc' → ∀ o, Query.ofJson o doc = Query.ofJson o doc' :=
  ⟨fun _ => toList_joined, fun _ _ => trimmed_of_mem_toList,
    fun _ => toList_items fun _ => trimmed_of_mem_toList, fun _ _ => Query.read_respelled,
    fun _ _ => Query.ofJson_respelled⟩

/-- One name has blanks around it, and one is empty. The names are selected of a relation. -/
theorem NameList.forms_agree_author :
    let names := [" title", "", "id\u3000"]
    let text := " title,,id\u3000"
    let inner : QueryMembers → QueryDocument := fun m => .mk {} (some (.nested [("author", .mk m none)]))
    let written : Json → Json := fun j => .obj [("with", .obj [("author", .obj [("select", j)])])]
    NoCommas names ∧ joined names = text
      ∧ toList (.text text) = ["title", "id"] ∧ toList (.items names) = ["title", "id"]
      ∧ "id" ∈ toList (.items names) ∧ Text.Trimmed "id"
      ∧ (inner { select := some (.text text) }).Respelled (inner { select := some (.items names) })
      ∧ Query.read {} (inner { select := some (.text text) })
        = Query.read {} (inner { select := some (.items names) })
      ∧ QueryDocument.RespelledJson (written (.str text)) (written (.arr (names.map .str)))
      ∧ Query.ofJson {} (written (.str text)) = Query.ofJson {} (written (.arr (names.map .str))) := by
  intro names text inner written
  obtain ⟨hforms, htrimmed, -, hread, hjson⟩ := forms_agree
  have hnames : NoCommas names := by
    unfold NoCommas
    decide
  have hlist : toList (.items names) = ["title", "id"] := by decide
  have hid : "id" ∈ toList (.items names) := by decide
  have hinner : (inner { select := some (.text text) }).Respelled
      (inner { select := some (.items names) }) :=
    .nested {} [] [] "author" (.names hnames .select (.mk {} none))
  have hwritten : QueryDocument.RespelledJson (written (.str text)) (written (.arr (names.map .str))) :=
    .nested [] [] "author" (.names hnames .select [])
  exact ⟨hnames, rfl, (hforms names hnames).trans hlist, hlist, hid, (htrimmed _ _ hid).2, hinner,
    hread _ _ hinner {}, hwritten, hjson _ _ hwritten {}⟩

end EntityMapper
