import EntityMapper.Proofs.Calendar.Notation
import EntityMapper.Proofs.Text.Blank

/-!
# Reading moments

`moment?` reads the texts that tell a moment and no others. For each part, one lemma reads the text
that was written and another one gives the text that was read.
-/

namespace EntityMapper.Calendar

open Text Text.Decimal

variable {x : Stamp} {m : Moment} {cs ds rest : List Char} {n : Nat}

theorem bind_eq_some {α β : Type} {o : Option α} {f : α → Option β} {a : α} {b : β}
    (ho : o = some a) (hf : f a = some b) : (o >>= f) = some b :=
  Option.bind_eq_some_iff.mpr ⟨a, ho, hf⟩

/-! ## Parts -/

theorem Date.ofParts?_eq_some_iff {y : Int} {m d : Nat} {date : Date} :
    ofParts? y m d = some date ↔ date = ⟨y, m, d⟩ ∧ date.Valid := by
  simp only [ofParts?, Option.ite_none_right_eq_some, Option.some.injEq, Bool.and_eq_true,
    decide_eq_true_eq]
  constructor
  · rintro ⟨⟨⟨⟨⟨hyear, hmonth⟩, hmonth'⟩, hday⟩, hday'⟩, rfl⟩
    exact ⟨rfl, ⟨⟨hmonth, hmonth'⟩, ⟨hday, hday'⟩⟩, hyear⟩
  · rintro ⟨rfl, h⟩
    exact ⟨⟨⟨⟨⟨h.year, h.month.1⟩, h.month.2⟩, h.day.1⟩, h.day.2⟩, rfl⟩

theorem Clock.ofParts?_eq_some_iff {h m s ns : Nat} {c : Clock} :
    ofParts? h m s ns = some c ↔ c = ⟨h, m, s, ns⟩ ∧ c.Valid := by
  simp only [ofParts?, Option.ite_none_right_eq_some, Option.some.injEq, Bool.and_eq_true,
    decide_eq_true_eq]
  constructor
  · rintro ⟨⟨⟨⟨hhour, hminute⟩, hsecond⟩, hnano⟩, rfl⟩
    exact ⟨rfl, hhour, hminute, hsecond, hnano⟩
  · rintro ⟨rfl, h⟩
    exact ⟨⟨⟨⟨h.hour, h.minute⟩, h.second⟩, h.nanosecond⟩, rfl⟩

/-! ## With an offset -/

/-- Nine digits and what is missing of them are the nanoseconds. -/
theorem valueOf_take_nine (ds : List Char) :
    valueOf (ds.take 9) * 10 ^ (9 - (ds.take 9).length)
      = valueOf ds * 10 ^ 9 / 10 ^ ds.length := by
  rcases Nat.le_total ds.length 9 with h | h
  · have hpow : 10 ^ 9 = 10 ^ (9 - ds.length) * 10 ^ ds.length := by
      rw [← pow_add, Nat.sub_add_cancel h]
    rw [List.take_of_length_le h, hpow, ← Nat.mul_assoc,
      Nat.mul_div_cancel _ (Nat.pow_pos (by omega))]
  · have hfront : (ds.take 9).length = 9 := by simp [h]
    have hvalue := valueOf_append (ds.take 9) (ds.drop 9)
    have hlength : ds.length = (ds.drop 9).length + 9 := by
      rw [List.length_drop]
      omega
    have hrest := valueOf_lt (ds.drop 9)
    rw [List.take_append_drop] at hvalue
    have hcut : (valueOf (ds.take 9) * 10 ^ (ds.drop 9).length + valueOf (ds.drop 9))
        / 10 ^ (ds.drop 9).length = valueOf (ds.take 9) := by
      rw [Nat.add_comm, Nat.add_mul_div_right _ _ (Nat.pow_pos (by omega)), Nat.div_eq_of_lt hrest,
        Nat.zero_add]
    rw [hfront, hvalue, hlength, pow_add, Nat.mul_div_mul_right _ _ (by decide), hcut]
    simp

theorem fraction_of_fraction? (h : fraction? cs = some (n, rest)) :
    ∃ fs, Fraction n fs ∧ cs = fs ++ rest := by
  unfold fraction? at h
  split at h
  · rename_i cs
    simp only [nanoseconds?, Option.ite_none_left_eq_some, Option.some.injEq, Prod.mk.injEq,
      Nat.pow_eq, valueOf_take_nine] at h
    obtain ⟨hne, rfl, rfl⟩ := h
    refine ⟨_, .digits (by simpa using hne) (List.all_eq_true.mp List.all_takeWhile), ?_⟩
    rw [List.cons_append, List.prefix_iff_eq_append.mp (List.takeWhile_prefix _)]
  · cases h
    exact ⟨[], .absent, rfl⟩

theorem Fraction.read {fs : List Char} (h : Fraction n fs)
    (hrest : ∀ c ∈ rest.head?, isDigit c = false ∧ c ≠ '.') :
    fraction? (fs ++ rest) = some (n, rest) := by
  cases h with
  | absent =>
    unfold fraction?
    split
    · simp_all
    · rfl
  | @digits ds hne hds =>
    have hrun : (ds ++ rest).takeWhile isDigit = ds := by
      rw [List.takeWhile_append_of_pos hds]
      cases rest with
      | nil => simp
      | cons c cs => simp_all
    simp only [List.cons_append, fraction?, nanoseconds?, hrun, List.isEmpty_iff, hne, if_false,
      List.drop_left, Nat.pow_eq, valueOf_take_nine]

theorem hoursMinutes_iff {sign o : Int} :
    (do
      let (hours, rest) ← number? 2 2 cs
      let rest ← expect? ':' rest
      let (minutes, rest) ← number? 2 2 rest
      if hours < 24 ∧ minutes < 60 then some (sign * (60 * hours + minutes : Nat), rest)
      else none) = some (o, rest) ↔
    ∃ n text, HoursMinutes n text ∧ o = sign * n ∧ cs = text ++ rest := by
  constructor
  · intro h
    simp only [bind, Option.bind_eq_some_iff, Prod.exists, expect?_eq_some_iff,
      Option.ite_none_right_eq_some, Option.some.injEq, Prod.mk.injEq] at h
    obtain ⟨h, r, hh, _, rfl, m, r', hm, ⟨hh24, hm60⟩, rfl, rfl⟩ := h
    obtain ⟨hs, hhs, rfl⟩ := number?_fixed_iff.mp hh
    obtain ⟨ms, hms, rfl⟩ := number?_fixed_iff.mp hm
    exact ⟨_, _, .mk hhs hms hh24 hm60, rfl, by simp⟩
  · rintro ⟨n, text, ⟨hhs, hms, hh24, hm60⟩, rfl, rfl⟩
    simp [bind, hhs.read_fixed, hms.read_fixed, hh24, hm60]

theorem offset?_eq_some_iff {o : Int} : offset? cs = some (o, rest) ↔
    ∃ text, Offset o text ∧ cs = text ++ rest := by
  constructor
  · intro h
    unfold offset? at h
    split at h
    · cases h
      exact ⟨_, .utc (.inl rfl), rfl⟩
    · cases h
      exact ⟨_, .utc (.inr rfl), rfl⟩
    · obtain ⟨n, text, hn, rfl, rfl⟩ := hoursMinutes_iff.mp h
      exact ⟨_, (Int.one_mul n).symm ▸ Offset.ahead hn, rfl⟩
    · obtain ⟨n, text, hn, rfl, rfl⟩ := hoursMinutes_iff.mp h
      exact ⟨_, (Int.neg_one_mul n).symm ▸ Offset.behind (.inl rfl) hn, rfl⟩
    · obtain ⟨n, text, hn, rfl, rfl⟩ := hoursMinutes_iff.mp h
      exact ⟨_, (Int.neg_one_mul n).symm ▸ Offset.behind (.inr rfl) hn, rfl⟩
    · cases h
  · rintro ⟨text, hoffset, rfl⟩
    cases hoffset with
    | utc hc => rcases hc with rfl | rfl <;> rfl
    | @ahead n _ hn => exact hoursMinutes_iff.mpr ⟨n, _, hn, by simp, rfl⟩
    | @behind n _ _ hc hn =>
      rcases hc with rfl | rfl <;> exact hoursMinutes_iff.mpr ⟨n, _, hn, by simp, rfl⟩

theorem Offset.read {o : Int} (h : Offset o cs) (rest : List Char) :
    offset? (cs ++ rest) = some (o, rest) :=
  offset?_eq_some_iff.mpr ⟨cs, h, rfl⟩

/-- What begins an offset ends a fraction. -/
theorem Offset.head {o : Int} (h : Offset o cs) :
    ∀ c ∈ (cs ++ rest).head?, isDigit c = false ∧ c ≠ '.' := by
  cases h with
  | utc hc | behind hc => rcases hc with rfl | rfl <;> simp <;> decide
  | ahead => simp; decide

theorem Stamp.WithOffset.read (h : x.WithOffset cs) : withOffset? cs = some x.utc := by
  obtain @⟨date, clock, _, ds, ts, os, _, hdate, hmark, hclock, hos⟩ := h
  obtain ⟨hys, hmos, hds, hvalid⟩ := hdate
  obtain ⟨hhs, hms, hss, hfs, hvalid'⟩ := hclock
  have hoffset := hos.read []
  have hend : ∀ c ∈ (os ++ []).head?, isDigit c = false ∧ c ≠ '.' := hos.head
  rw [List.append_nil] at hoffset hend
  simp only [List.append_assoc, List.cons_append]
  refine bind_eq_some (hys.read_fixed _) ?_
  refine bind_eq_some (expect?_cons _ _) ?_
  refine bind_eq_some (hmos.read_fixed _) ?_
  refine bind_eq_some (expect?_cons _ _) ?_
  refine bind_eq_some (hds.read_fixed _) ?_
  refine bind_eq_some (Date.ofParts?_eq_some_iff.mpr ⟨rfl, hvalid⟩) ?_
  refine (if_neg (by simp [hmark])).trans ?_
  refine bind_eq_some (hhs.read_fixed _) ?_
  refine bind_eq_some (expect?_cons _ _) ?_
  refine bind_eq_some (hms.read_fixed _) ?_
  refine bind_eq_some (expect?_cons _ _) ?_
  refine bind_eq_some (hss.read_fixed _) ?_
  refine bind_eq_some (hfs.read hend) ?_
  refine bind_eq_some (Clock.ofParts?_eq_some_iff.mpr ⟨rfl, hvalid'⟩) ?_
  exact bind_eq_some hoffset rfl

theorem of_number?_bind {α : Type} {w : Nat} {f : Nat × List Char → Option α} {a : α}
    (h : (number? w w cs >>= f) = some a) :
    ∃ n ds rest, Numeral w w n ds ∧ cs = ds ++ rest ∧ f (n, rest) = some a := by
  obtain ⟨⟨n, rest⟩, hread, h⟩ := Option.bind_eq_some_iff.mp h
  obtain ⟨ds, hds, hcs⟩ := number?_fixed_iff.mp hread
  exact ⟨n, ds, rest, hds, hcs, h⟩

theorem of_expect?_bind {α : Type} {c : Char} {f : List Char → Option α} {a : α}
    (h : (expect? c cs >>= f) = some a) : ∃ rest, cs = c :: rest ∧ f rest = some a := by
  obtain ⟨rest, hread, h⟩ := Option.bind_eq_some_iff.mp h
  exact ⟨rest, expect?_eq_some_iff.mp hread, h⟩

theorem withOffset_of_withOffset? (h : withOffset? cs = some m) :
    ∃ x : Stamp, x.WithOffset cs ∧ x.utc = m := by
  -- The parts are read off in turn, and `cs` is put together from their texts at the end.
  obtain ⟨y, ys, _, hys, hcs, h⟩ := of_number?_bind h
  obtain ⟨_, hdash, h⟩ := of_expect?_bind h
  obtain ⟨mo, mos, _, hmos, hcs, h⟩ := of_number?_bind h
  obtain ⟨_, hdash, h⟩ := of_expect?_bind h
  obtain ⟨d, ds, after, hds, hcs, h⟩ := of_number?_bind h
  obtain ⟨date, hdate, h⟩ := Option.bind_eq_some_iff.mp h
  obtain ⟨rfl, hvalid⟩ := Date.ofParts?_eq_some_iff.mp hdate
  obtain _ | ⟨mark, rest⟩ := after
  · cases h
  cases hmark : isTimeMark mark with
  | false => simp [hmark] at h
  | true =>
    replace h := (if_neg (by simp [hmark])).symm.trans h
    obtain ⟨hh, hs, _, hhs, hcs, h⟩ := of_number?_bind h
    obtain ⟨_, hcolon, h⟩ := of_expect?_bind h
    obtain ⟨mm, ms, _, hms, hcs, h⟩ := of_number?_bind h
    obtain ⟨_, hcolon, h⟩ := of_expect?_bind h
    obtain ⟨ss, sss, _, hss, hcs, h⟩ := of_number?_bind h
    obtain ⟨⟨ns, _⟩, hfraction, h⟩ := Option.bind_eq_some_iff.mp h
    obtain ⟨clock, hclock, h⟩ := Option.bind_eq_some_iff.mp h
    obtain ⟨⟨offset, _⟩, hoffset, h⟩ := Option.bind_eq_some_iff.mp h
    obtain ⟨hempty, hmoment⟩ := Option.ite_none_right_eq_some.mp h
    obtain ⟨fs, hfs, hcs⟩ := fraction_of_fraction? hfraction
    obtain ⟨rfl, hvalid'⟩ := Clock.ofParts?_eq_some_iff.mp hclock
    obtain ⟨os, hos, hcs⟩ := offset?_eq_some_iff.mp hoffset
    have hnil := List.isEmpty_iff.mp hempty
    subst_vars
    refine ⟨⟨⟨y, mo, d⟩, ⟨hh, mm, ss, ns⟩, offset⟩, ?_, Option.some.inj hmoment⟩
    simpa using Stamp.WithOffset.mk (.mk hys hmos hds hvalid) hmark
      (.mk hhs hms hss hfs hvalid') hos

/-! ## In UTC -/

theorem isBlank_of_isDigit {c : Char} (h : isDigit c = true) : isBlank c = false := by
  have := isDigit_iff.mp h
  simp only [isBlank, Bool.or_eq_false_iff, Bool.and_eq_false_iff, decide_eq_false_iff_not,
    beq_eq_false_iff_ne]
  omega

theorem Numeral.read_loose {bs : List Char} (hds : Numeral 1 2 n ds) (hbs : Blanks bs)
    (hend : ds.length = 2 ∨ NoDigit rest) :
    looseNumber? (bs ++ (ds ++ rest)) = some (n, rest) := by
  rw [looseNumber?, trimStart_append hbs fun c hc => isBlank_of_isDigit (hds.head (by omega) c hc)]
  exact number?_eq_some_iff.mpr ⟨_, hds, rfl, hend⟩

theorem Spaced.read (h : Spaced n cs) (hrest : NoDigit rest) :
    looseNumber? (cs ++ rest) = some (n, rest) := by
  obtain ⟨hbs, hds⟩ := h
  rw [List.append_assoc]
  exact hds.read_loose hbs (.inr hrest)

theorem of_looseNumber?_bind {α : Type} {f : Nat × List Char → Option α} {a : α}
    (h : (looseNumber? cs >>= f) = some a) : ∃ n bs ds rest, Blanks bs ∧ Numeral 1 2 n ds ∧
      cs = bs ++ (ds ++ rest) ∧ (ds.length = 2 ∨ NoDigit rest) ∧ f (n, rest) = some a := by
  obtain ⟨⟨n, rest⟩, hread, h⟩ := Option.bind_eq_some_iff.mp h
  obtain ⟨ds, hds, hcs, hend⟩ := number?_eq_some_iff.mp hread
  obtain ⟨bs, hbs, hblanks⟩ := exists_blanks cs
  exact ⟨n, bs, ds, rest, hbs, hds, hcs ▸ hblanks, hend, h⟩

theorem LooseYear.read {y : Int} (h : LooseYear y cs) (hrest : NoDigit rest) :
    looseYear? (cs ++ rest) = some (y, rest) := by
  unfold looseYear?
  cases h with
  | @plain n bs ds hbs hds =>
    have hhead : ∀ c ∈ (ds ++ rest).head?, isDigit c = true := hds.head (by omega)
    rw [List.append_assoc, trimStart_append hbs fun c hc => isBlank_of_isDigit (hhead c hc)]
    split
    · rename_i heq
      exact absurd (hhead '-' (by simp [heq])) (by decide)
    · rename_i heq
      exact absurd (hhead '+' (by simp [heq])) (by decide)
    · simp [hds.read hrest]
  | @before n bs ds hbs hds | @after n bs ds hbs hds =>
    have hlong : ds.length ≤ (ds ++ rest).length := by simp
    rw [List.append_assoc, trimStart_append hbs (by simp; decide)]
    simp only [List.cons_append, (hds.extend le_rfl hlong).read hrest, Option.map_some]

theorem of_looseYear? {y : Int} (h : looseYear? cs = some (y, rest)) :
    ∃ ys, LooseYear y ys ∧ cs = ys ++ rest := by
  obtain ⟨bs, hbs, hblanks⟩ := exists_blanks cs
  unfold looseYear? at h
  split at h
  all_goals
    rename_i hcs
    obtain ⟨⟨n, _⟩, hread, hvalue⟩ := Option.map_eq_some_iff.mp h
    obtain ⟨ds, hds, hrun, -⟩ := number?_eq_some_iff.mp hread
    cases hvalue
  · exact ⟨_, .before hbs (hds.extend le_rfl le_rfl),
      hblanks.trans (by simp [hcs, hrun])⟩
  · exact ⟨_, .after hbs (hds.extend le_rfl le_rfl),
      hblanks.trans (by simp [hcs, hrun])⟩
  · exact ⟨_, .plain hbs hds, hblanks.trans (by simp [hrun])⟩

theorem Date.Loose.read {date : Date} (h : date.Loose ds rest) :
    looseDate? (ds ++ rest) = some (date, rest) := by
  obtain ⟨hys, hms, hbs, hds, hend, hvalid⟩ := h
  simp only [List.append_assoc, List.cons_append]
  refine bind_eq_some (hys.read (by simp; decide)) ?_
  refine bind_eq_some (expect?_cons _ _) ?_
  refine bind_eq_some (hms.read (by simp; decide)) ?_
  refine bind_eq_some (expect?_cons _ _) ?_
  refine bind_eq_some (hds.read_loose hbs hend) ?_
  exact bind_eq_some (ofParts?_eq_some_iff.mpr ⟨rfl, hvalid⟩) rfl

theorem loose_of_looseDate? {date : Date} (h : looseDate? cs = some (date, rest)) :
    ∃ ds, date.Loose ds rest ∧ cs = ds ++ rest := by
  obtain ⟨⟨y, _⟩, hy, h⟩ := Option.bind_eq_some_iff.mp h
  obtain ⟨ys, hys, hcs⟩ := of_looseYear? hy
  obtain ⟨_, hdash, h⟩ := of_expect?_bind h
  obtain ⟨m, bs, ms, _, hbs, hms, hcs, -, h⟩ := of_looseNumber?_bind h
  obtain ⟨_, hdash, h⟩ := of_expect?_bind h
  obtain ⟨d, bs', ds, _, hbs', hds, hcs, hend, h⟩ := of_looseNumber?_bind h
  obtain ⟨date', hdate, hresult⟩ := Option.bind_eq_some_iff.mp h
  obtain ⟨rfl, hvalid⟩ := Date.ofParts?_eq_some_iff.mp hdate
  cases hresult
  subst_vars
  exact ⟨_, .mk hys (.mk hbs hms) hbs' hds hend hvalid, by simp⟩

theorem Fraction.noDigit {fs : List Char} (h : Fraction n fs) : NoDigit fs := by
  cases h with
  | absent => simp
  | digits => simp; decide

theorem Clock.Loose.read {clock : Clock} (h : clock.Loose cs) : looseClock? cs = some clock := by
  obtain ⟨hhs, hms, hss, hfs, hvalid⟩ := h
  have hfraction := hfs.read (by simp : ∀ c ∈ ([] : List Char).head?, _)
  rw [List.append_nil] at hfraction
  refine bind_eq_some (hhs.read (by simp; decide)) ?_
  refine bind_eq_some (expect?_cons _ _) ?_
  refine bind_eq_some (hms.read (by simp; decide)) ?_
  refine bind_eq_some (expect?_cons _ _) ?_
  refine bind_eq_some (hss.read hfs.noDigit) ?_
  exact bind_eq_some hfraction (ofParts?_eq_some_iff.mpr ⟨rfl, hvalid⟩)

theorem loose_of_looseClock? {clock : Clock} (h : looseClock? cs = some clock) :
    clock.Loose cs := by
  obtain ⟨hh, bs, hs, _, hbs, hhs, hcs, -, h⟩ := of_looseNumber?_bind h
  obtain ⟨_, hcolon, h⟩ := of_expect?_bind h
  obtain ⟨mm, bs', ms, _, hbs', hms, hcs, -, h⟩ := of_looseNumber?_bind h
  obtain ⟨_, hcolon, h⟩ := of_expect?_bind h
  obtain ⟨s, bs'', ss, _, hbs'', hss, hcs, -, h⟩ := of_looseNumber?_bind h
  obtain ⟨⟨ns, _⟩, hfraction, h⟩ := Option.bind_eq_some_iff.mp h
  obtain ⟨fs, hfs, hcs⟩ := fraction_of_fraction? hfraction
  obtain ⟨hempty, hclock⟩ := Option.ite_none_right_eq_some.mp h
  obtain ⟨rfl, hvalid⟩ := Clock.ofParts?_eq_some_iff.mp hclock
  have hnil := List.isEmpty_iff.mp hempty
  subst_vars
  simpa using Clock.Loose.mk (.mk hbs hhs) (.mk hbs' hms) (.mk hbs'' hss) hfs hvalid

theorem Spaced.head (h : Spaced n cs) :
    ∀ c ∈ (cs ++ rest).head?, isBlank c = true ∨ isDigit c = true := by
  obtain @⟨bs, ds, hbs, hds⟩ := h
  cases bs with
  | nil => exact fun c hc => .inr (hds.head (by omega) c hc)
  | cons b bs => simpa using .inl (hbs b (by simp))

/-- The time does not begin with the mark. -/
theorem Clock.Loose.ne_mark {clock : Clock} (h : clock.Loose cs) : cs ≠ 'T' :: rest := by
  rintro rfl
  generalize hcs : 'T' :: rest = cs at h
  obtain ⟨hhs, -, -, -, -⟩ := h
  have hhead := hhs.head 'T' (by rw [← hcs]; rfl)
  revert hhead
  decide

theorem Stamp.InUtc.read (h : x.InUtc cs) : withoutOffset? cs = some x.utc := by
  rw [h.utc]
  obtain @⟨date, clock, ds, cs, mark, hds, hmark, hcs⟩ := h
  refine bind_eq_some hds.read ?_
  refine @bind_eq_some _ _ _ _ clock _ ?_ rfl
  rcases hmark with rfl | rfl
  · dsimp only [List.nil_append]
    split
    · exact absurd rfl hcs.ne_mark
    · exact hcs.read
  · exact hcs.read

theorem inUtc_of_withoutOffset? (hread : withoutOffset? cs = some m) :
    ∃ x : Stamp, x.InUtc cs ∧ x.utc = m := by
  obtain ⟨⟨date, after⟩, hdate, h⟩ := Option.bind_eq_some_iff.mp hread
  obtain ⟨ds, hds, rfl⟩ := loose_of_looseDate? hdate
  obtain ⟨clock, hclock, hm⟩ := Option.bind_eq_some_iff.mp h
  have hshown : Stamp.InUtc ⟨date, clock, 0⟩ (ds ++ after) := by
    split at hclock
    · exact @Stamp.InUtc.mk _ _ _ _ ['T'] hds (.inr rfl) (loose_of_looseClock? hclock)
    · exact @Stamp.InUtc.mk _ _ _ _ [] hds (.inl rfl) (loose_of_looseClock? hclock)
  exact ⟨_, hshown, hshown.utc.trans (Option.some.inj hm)⟩

/-! ## Either way -/

/-- A moment is read exactly from the texts that tell it. -/
theorem moment?_eq_some_iff {s : String} :
    moment? s = some m ↔ ∃ x : Stamp, x.Shown s ∧ x.utc = m := by
  unfold moment?
  constructor
  · intro h
    rcases Option.or_eq_some_iff.mp h with hread | ⟨-, hread⟩
    · obtain ⟨x, hx, hm⟩ := withOffset_of_withOffset? hread
      exact ⟨x, .inl hx, hm⟩
    · obtain ⟨x, hx, hm⟩ := inUtc_of_withoutOffset? hread
      exact ⟨x, .inr hx, hm⟩
  · rintro ⟨x, hx | hx, rfl⟩
    · rw [hx.read, Option.some_or]
    · have hnone : withOffset? s.toList = none := by
        cases hread : withOffset? s.toList with
        | none => rfl
        | some m =>
          obtain ⟨y, hy, -⟩ := withOffset_of_withOffset? hread
          exact absurd hx hy.not_inUtc
      rw [hnone, Option.none_or, hx.read]

end EntityMapper.Calendar
