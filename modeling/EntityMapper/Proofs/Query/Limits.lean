import EntityMapper.Proofs.Query.Document
import EntityMapper.Settings

/-!
# Limits

However a query is written, each of its levels has a limit: the one that is asked for, held down to
the greatest allowed, or the default, which the settings keep below that.
-/

namespace EntityMapper

/-! ## Queries in queries -/

namespace Query

/-- The query that a path of relations leads to. -/
def at? : Query → List String → Option Query
  | q, [] => some q
  | q, name :: path => (q.nested.get? name).bind (at? · path)

end Query

/-! ## What a document asks for -/

namespace QueryDocument

/-- A member of a query document, which has its place when the document is an array. -/
def member? (name : String) (place : Nat) : Json → Option Json
  | .obj members => Dict.get? members name
  | .arr items => items[place]?
  | _ => none

def requestedLimit? (doc : Json) : Option Nat := (member? "limit" 0 doc).bind Document.count?

def at? : Json → List String → Option Json
  | doc, [] => some doc
  | doc, name :: path =>
    match member? "with" 6 doc with
    | some (.obj queries) => (Dict.get? queries name).bind (at? · path)
    | _ => none

variable {members : List (String × Json)} {items : List Json} {doc : Json} {m : QueryMembers}
  {relations : Option RelationsDocument}

theorem optional?_count? {part : Option Json} {limit : Option Nat}
    (h : Document.optional? Document.count? part = some limit) :
    limit = part.bind Document.count? := by
  cases part with
  | none => exact (Option.some.inj h).symm
  | some j =>
    cases j with
    | int n =>
      obtain ⟨count, hcount, rfl⟩ := Option.map_eq_some_iff.mp h
      exact hcount.symm
    | null => exact (Option.some.inj h).symm
    | _ => cases h

theorem limit_of_read? {parts : List (Option Json)} (h : QueryMembers.read? parts = some m) :
    ∃ limit rest, parts = limit :: rest ∧ m.limit = limit.bind Document.count? := by
  unfold QueryMembers.read? at h
  split at h
  · obtain ⟨limit, hlimit, h⟩ := Option.bind_eq_some_iff.mp h
    simp only [Option.bind_eq_bind, Option.bind_eq_some_iff] at h
    obtain ⟨_, -, _, -, _, -, _, -, _, -, h⟩ := h
    cases h
    exact ⟨_, _, rfl, optional?_count? hlimit⟩
  · cases h

theorem record?_limit {limit : Option Json} {rest : List (Option Json)}
    (h : Document.record? memberNames doc = some (limit :: rest)) :
    limit = member? "limit" 0 doc := by
  cases doc with
  | obj members =>
    obtain ⟨rfl, -⟩ := List.cons.inj (Option.some.inj h)
    rfl
  | arr items =>
    by_cases hlength : items.length ≤ memberNames.length
    · simp only [Document.record?, hlength, if_true] at h
      cases items with
      | nil =>
        obtain ⟨rfl, -⟩ := List.cons.inj (Option.some.inj h)
        rfl
      | cons j items =>
        obtain ⟨rfl, -⟩ := List.cons.inj (Option.some.inj h)
        rfl
    · simp only [Document.record?, hlength, if_false] at h
      cases h
  | _ => cases h

theorem limit_of_record? {parts : List (Option Json)}
    (hparts : Document.record? memberNames doc = some parts)
    (hm : QueryMembers.read? parts = some m) : m.limit = requestedLimit? doc := by
  obtain ⟨limit, rest, rfl, hlimit⟩ := limit_of_read? hm
  rw [hlimit, record?_limit hparts]
  rfl

/-- What is read of a document: the limit that it asks for, and what stands under `with`. -/
theorem ofJson?_eq_some (h : ofJson? doc = some (.mk m relations)) :
    m.limit = requestedLimit? doc
      ∧ ((member? "with" 6 doc).map relations?).getD (some none) = some relations := by
  cases doc with
  | obj members =>
    simp only [ofJson?, Option.bind_eq_bind, Option.bind_eq_some_iff] at h
    obtain ⟨parts, hparts, m', hm, relations', hrelations, h⟩ := h
    cases h
    rw [relationsOf?_eq] at hrelations
    exact ⟨limit_of_record? hparts hm, hrelations⟩
  | arr items =>
    simp only [ofJson?, Option.bind_eq_bind, Option.bind_eq_some_iff] at h
    obtain ⟨parts, hparts, m', hm, relations', hrelations, h⟩ := h
    cases h
    rw [relationsAt?_eq] at hrelations
    exact ⟨limit_of_record? hparts hm, hrelations⟩
  | _ => cases h

theorem get?_nested? {queries : List (String × Json)} {read : List (String × QueryDocument)}
    (h : nested? queries = some read) {name : String} {sub : Json}
    (hsub : Dict.get? queries name = some sub) :
    ∃ d, Dict.get? read name = some d ∧ ofJson? sub = some d := by
  induction queries generalizing read with
  | nil => cases hsub
  | cons entry rest ih =>
    obtain ⟨key, j⟩ := entry
    simp only [nested?, Option.bind_eq_bind, Option.bind_eq_some_iff] at h
    obtain ⟨d, hd, others, hothers, h⟩ := h
    cases h
    by_cases hkey : key = name
    · simp only [Dict.get?, hkey, if_true, Option.some.injEq] at hsub ⊢
      subst hsub
      exact ⟨d, rfl, hd⟩
    · simp only [Dict.get?, hkey, if_false] at hsub ⊢
      exact ih hothers hsub

end QueryDocument

namespace Query

variable {o : QueryOptions} {q : Query}

theorem limit_of_readLevel {m : QueryMembers} {level : QueryLevel}
    (h : readLevel o m = .ok level) :
    level.limit = (m.limit.map (min · o.maxLimit)).getD o.defaultLimit := by
  obtain ⟨filter, -, rfl⟩ := of_readLevel h
  rfl

/-! ## At most the greatest allowed -/

theorem every_read (ho : o.defaultLimit ≤ o.maxLimit) (d : QueryDocument) (h : read o d = .ok q) :
    q.Every (·.limit ≤ o.maxLimit) := by
  refine every_of_read (fun m level hlevel => ?_) ho d h
  rw [limit_of_readLevel hlevel]
  cases m.limit with
  | none => exact ho
  | some n => exact Nat.min_le_right n o.maxLimit

/-! ## As it is asked for -/

theorem get?_readNested {queries : List (String × QueryDocument)} {nested : List (String × Query)}
    (h : readNested o queries = .ok nested) {name : String} {d : QueryDocument}
    (hd : Dict.get? queries name = some d) :
    ∃ q, Dict.get? nested name = some q ∧ read o d = .ok q := by
  induction queries generalizing nested with
  | nil => cases hd
  | cons entry rest ih =>
    obtain ⟨key, d'⟩ := entry
    obtain ⟨q, others, hq, hothers, rfl⟩ := of_readNested h
    by_cases hkey : key = name
    · simp only [Dict.get?, hkey, if_true, Option.some.injEq] at hd ⊢
      subst hd
      exact ⟨q, rfl, hq⟩
    · simp only [Dict.get?, hkey, if_false] at hd ⊢
      exact ih hothers hd

/-- Where a document stands there is the query that it asks for. -/
theorem limit_at? {doc sub : Json} {d : QueryDocument} {path : List String}
    (hd : QueryDocument.ofJson? doc = some d) (h : read o d = .ok q)
    (hsub : QueryDocument.at? doc path = some sub) :
    ∃ found, q.at? path = some found ∧ found.level.limit
      = ((QueryDocument.requestedLimit? sub).map (min · o.maxLimit)).getD o.defaultLimit := by
  -- the path is followed at once in the document, in what is read of it, and in the query
  induction path generalizing doc d q with
  | nil =>
    obtain ⟨m, relations⟩ := d
    obtain ⟨level, nested, hlevel, -, rfl⟩ := of_read h
    cases hsub
    refine ⟨_, rfl, ?_⟩
    rw [← (QueryDocument.ofJson?_eq_some hd).1]
    exact limit_of_readLevel hlevel
  | cons name path ih =>
    obtain ⟨m, relations⟩ := d
    obtain ⟨level, nested, -, hnested, rfl⟩ := of_read h
    obtain ⟨-, hrelations⟩ := QueryDocument.ofJson?_eq_some hd
    unfold QueryDocument.at? at hsub
    split at hsub
    · rename_i queries hwith
      obtain ⟨next, hnext, hsub⟩ := Option.bind_eq_some_iff.mp hsub
      rw [hwith] at hrelations
      obtain ⟨documents, hdocuments, rfl⟩ := Option.map_eq_some_iff.mp hrelations
      obtain ⟨d', hd', hread⟩ := QueryDocument.get?_nested? hdocuments hnext
      obtain ⟨q', hq', hquery⟩ := get?_readNested hnested hd'
      obtain ⟨found, hfound, hlimit⟩ := ih hread hquery hsub
      refine ⟨found, ?_, hlimit⟩
      change (Dict.get? nested name).bind (at? · path) = some found
      rw [hq']
      exact hfound
    · cases hsub

end Query

/-! ## Settings -/

namespace Settings

variable {lookup : String → Option String} {s : Settings} {doc : Json} {q : Query}

theorem defaultLimit_le (h : ofLookup lookup = .ok s) : s.defaultLimit ≤ s.maxLimit := by
  unfold ofLookup at h
  obtain ⟨maxConnections, -, h⟩ := Result.of_bind h
  obtain ⟨defaultLimit, -, h⟩ := Result.of_bind h
  obtain ⟨maxLimit, -, h⟩ := Result.of_bind h
  by_cases hle : maxLimit < defaultLimit
  · rw [if_pos hle] at h
    cases h
  · rw [if_neg hle] at h
    cases h
    exact Nat.le_of_not_lt hle

/-- No level of a query has a limit above the greatest allowed, and where a document of a query stands
there is its query, with the limit that it asks for if that is allowed. -/
theorem limits_kept (hs : ofLookup lookup = .ok s) (hq : Query.ofJson s.queryOptions doc = .ok q) :
    q.Every (·.limit ≤ s.maxLimit)
      ∧ ∀ path sub, QueryDocument.at? doc path = some sub →
        ∃ found, q.at? path = some found ∧ ∀ n, QueryDocument.requestedLimit? sub = some n →
          n ≤ s.maxLimit → found.level.limit = n := by
  unfold Query.ofJson at hq
  obtain ⟨d, hd, hq⟩ := Result.of_bind hq
  refine ⟨Query.every_read (defaultLimit_le hs) d hq, fun path sub hsub => ?_⟩
  obtain ⟨found, hfound, hlimit⟩ := Query.limit_at? (QueryDocument.of_ofObject hd) hq hsub
  refine ⟨found, hfound, fun n hn hle => ?_⟩
  rw [hlimit, hn]
  exact Nat.min_eq_left hle

/-- At most fifty rows of each level. -/
def fifty : String → Option String
  | "ENTITY_ENGINE_MAX_LIMIT" => some "50"
  | _ => none

/-- Posts with their authors, asked for in an array, and with their tags. -/
def postsDocument : Json :=
  .obj [("limit", .int 90), ("with", .obj [("author", .arr [.int 20]), ("tags", .obj [])])]

def postsQuery : Query :=
  .node { limit := 50 } [("author", .node { limit := 20 } []), ("tags", .node { limit := 10 } [])]

theorem limits_kept_posts :
    ofLookup fifty = .ok { maxLimit := 50 }
      ∧ Query.ofJson { maxLimit := 50 } postsDocument = .ok postsQuery
      ∧ postsQuery.Every (·.limit ≤ 50)
      ∧ ∃ found, postsQuery.at? ["author"] = some found ∧ found.level.limit = 20 := by
  have hs : ofLookup fifty = .ok { maxLimit := 50 } := by decide
  have hq : Query.ofJson { maxLimit := 50 } postsDocument = .ok postsQuery := rfl
  obtain ⟨hevery, hasked⟩ := limits_kept hs hq
  obtain ⟨found, hfound, hlimit⟩ := hasked ["author"] (.arr [.int 20]) rfl
  exact ⟨hs, hq, hevery, found, hfound, hlimit 20 rfl (by decide)⟩

end Settings
end EntityMapper
