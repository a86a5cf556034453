import Sofaload.Request.Theorems.Header

namespace Sofaload

section Reader

-- A line of the head without its CR; `none` when it does not end in CR.
def dropCr (l : List Char) : Option (List Char) :=
  if l.getLast? = some '\r' then some l.dropLast else none

-- The request line `method SP target SP HTTP/1.1`.
def readRequestLine (l : List Char) : Option (List Char × List Char) :=
  match l.dropWhile (· != ' ') with
  | ' ' :: r =>
    if r.dropWhile (· != ' ') = " HTTP/1.1".toList then some (l.takeWhile (· != ' '), r.takeWhile (· != ' '))
    else none
  | _ => none

-- A header line `name ": " value`.
def readField (l : List Char) : Option Header :=
  match l.dropWhile (· != ':') with
  | ':' :: ' ' :: v => some ⟨l.takeWhile (· != ':'), v⟩
  | _ => none

-- The header lines up to the empty line, which must end the text.
def readFields : List (List Char) → Option (List Header)
  | [] => none
  | l :: ls =>
    match dropCr l with
    | none => none
    | some [] => if ls = [[]] then some [] else none
    | some x =>
      match readField x, readFields ls with
      | some f, some fs => some (f :: fs)
      | _, _ => none

-- An HTTP/1.1 request head: its method, its target and its header fields.
def readRequest (text : List Char) : Option (List Char × List Char × List Header) :=
  match text.splitOn '\n' with
  | [] => none
  | l :: ls =>
    match dropCr l >>= readRequestLine, readFields ls with
    | some (m, t), some fs => some (m, t, fs)
    | _, _ => none

-- `Header` with its name in lower case: field names are compared without regard to case.
def Header.lower (h : Header) : Header := ⟨strLower h.name, h.value⟩

-- The HTTP/1.1 field an HTTP/2 header stands for: `:authority` is `host`, the other
-- pseudo-headers stand for none.
def h2Field (nv : Header) : Option Header :=
  if nv.name = ":authority".toList then some ⟨"host".toList, nv.value⟩
  else if nv.name.head? = some ':' then none
  else some ⟨strLower nv.name, nv.value⟩

-- What an HTTP/2 header list says in HTTP/1.1 terms: the values of its `:method` and `:path`,
-- and its fields.
def h2View (nva : List Header) : Option (List Char × List Char × List Header) := do
  let m ← nva.find? (·.name == ":method".toList)
  let p ← nva.find? (·.name == ":path".toList)
  pure (m.value, p.value, nva.filterMap h2Field)

end Reader

section Lines

-- The field an entry of the header list gives the HTTP/1.1 request.
def h1Field (nv : Header) : Option Header :=
  if nv.name = ":authority".toList then some ⟨"Host".toList, nv.value⟩
  else if nv.name.head? = some ':' then none
  else some nv

def fieldText (f : Header) : List Char := f.name ++ ':' :: ' ' :: f.value

theorem flatMap_h1Line (shared : List Header) :
    shared.flatMap h1Line = (shared.filterMap h1Field).flatMap (fieldText · ++ crlf) := by
  induction shared with
  | nil => rfl
  | cons nv l ih =>
    rw [List.flatMap_cons, ih, List.filterMap_cons, h1Line, h1Field]
    split_ifs <;> simp [fieldText]

theorem dropCr_append (l : List Char) : dropCr (l ++ ['\r']) = some l := by
  simp [dropCr]

theorem splitOn_lines {ls : List (List Char)} (h : ∀ l ∈ ls, '\n' ∉ l) :
    (ls.flatMap (· ++ crlf)).splitOn '\n' = ls.map (· ++ ['\r']) ++ [[]] := by
  induction ls with
  | nil => rfl
  | cons l ls ih =>
    have hl : ∀ x ∈ l ++ ['\r'], ¬(x == '\n') = true := fun x hx e => by
      rcases List.mem_append.mp hx with hx | hx
      · exact h l (List.mem_cons_self _ _) (beq_iff_eq.mp e ▸ hx)
      · simp only [List.mem_singleton] at hx; subst hx; exact absurd e (by decide)
    have e : (l ++ crlf) ++ ls.flatMap (· ++ crlf) = (l ++ ['\r']) ++ '\n' :: ls.flatMap (· ++ crlf) := by
      simp [crlf]
    rw [List.flatMap_cons, e, List.splitOn, List.splitOnP_first _ _ hl _ (by decide), ← List.splitOn,
      ih fun x hx => h x (List.mem_cons_of_mem _ hx)]
    rfl

theorem readField_fieldText {f : Header} (h : ':' ∉ f.name) : readField (fieldText f) = some f := by
  rw [readField, fieldText, dropWhile_ne_append h, takeWhile_ne_append h]; rfl

theorem readFields_lines : ∀ {fs : List Header}, (∀ f ∈ fs, ':' ∉ f.name) →
    readFields (fs.map (fieldText · ++ ['\r']) ++ [['\r'], []]) = some fs
  | [], _ => rfl
  | f :: fs, h => by
    obtain ⟨c, t, e⟩ : ∃ c t, fieldText f = c :: t := by
      cases hn : f.name <;> simp [fieldText, hn]
    rw [List.map_cons, List.cons_append, readFields, dropCr_append, e]
    dsimp only
    rw [← e, readField_fieldText (h f (List.mem_cons_self _ _)),
      readFields_lines fun g hg => h g (List.mem_cons_of_mem _ hg)]

theorem readRequestLine_eq {m req : List Char} (hm : ' ' ∉ m) (hr : ' ' ∉ req) :
    readRequestLine (m ++ ' ' :: (req ++ " HTTP/1.1".toList)) = some (m, req) := by
  have e : " HTTP/1.1".toList = ' ' :: "HTTP/1.1".toList := rfl
  rw [readRequestLine, dropWhile_ne_append hm]
  split
  · next r hr' =>
    obtain rfl : req ++ " HTTP/1.1".toList = r := List.cons_injective hr'
    rw [e, dropWhile_ne_append hr, if_pos rfl, takeWhile_ne_append hm, takeWhile_ne_append hr]
  · next hne => exact absurd rfl (hne _)

-- A head written as lines ending in CRLF reads back as what it was written from.
theorem readRequest_lines {m req : List Char} {fs : List Header} (hm : ' ' ∉ m ∧ '\n' ∉ m)
    (hr : ' ' ∉ req ∧ '\n' ∉ req) (hf : ∀ f ∈ fs, ':' ∉ f.name ∧ '\n' ∉ f.name ∧ '\n' ∉ f.value) :
    readRequest (((m ++ ' ' :: (req ++ " HTTP/1.1".toList)) :: fs.map fieldText ++ [[]]).flatMap
      (· ++ crlf)) = some (m, req, fs) := by
  have hl : ∀ l ∈ (m ++ ' ' :: (req ++ " HTTP/1.1".toList)) :: fs.map fieldText ++ [[]], '\n' ∉ l := by
    intro l hl
    simp only [List.mem_cons, List.mem_append, List.mem_map, List.mem_singleton, List.not_mem_nil,
      or_false] at hl
    rcases hl with (rfl | ⟨f, hf', rfl⟩) | rfl
    · simp only [List.mem_append, List.mem_cons, not_or]
      exact ⟨hm.2, by decide, hr.2, by decide⟩
    · obtain ⟨-, h₁, h₂⟩ := hf f hf'
      simp only [fieldText, List.mem_append, List.mem_cons, not_or]
      exact ⟨h₁, by decide, by decide, h₂⟩
    · exact List.not_mem_nil _
  rw [readRequest, splitOn_lines hl]
  simp only [List.map_cons, List.map_append, List.map_map, List.map_nil, List.cons_append,
    List.nil_append, Function.comp_def]
  rw [dropCr_append, Option.bind_eq_bind, Option.some_bind, readRequestLine_eq hm.1 hr.1,
    List.append_assoc, List.singleton_append, readFields_lines fun f h => (hf f h).1]

end Lines

section Agreement

theorem value_overridden (custom : List Header) (nv : Header) :
    (overridden custom nv).value = nv.value ∨
      ∃ kv ∈ custom, overrides kv.name nv.name ∧ (overridden custom nv).value = kv.value := by
  unfold overridden
  split
  · next kv e =>
    obtain ⟨hk, hm⟩ := List.mem_filter.mp (List.mem_of_getLast?_eq_some e)
    exact .inr ⟨kv, hk, (Bool.and_eq_true_iff.mp hm).2, rfl⟩
  · exact .inl rfl

-- Every entry of `shared_nva` is an entry it started from, with that entry's value or a custom
-- header's, or a custom header named in no entry.
theorem mem_sharedNva {base custom : List Header} {nv : Header} (h : nv ∈ sharedNva base custom) :
    (∃ b ∈ base, nv.name = b.name ∧
        (nv.value = b.value ∨ ∃ kv ∈ custom, overrides kv.name b.name ∧ nv.value = kv.value)) ∨
      nv ∈ custom ∧ nv.name ∉ overrideHdrs := by
  rw [sharedNva_eq, List.mem_append] at h
  rcases h with h | h
  · obtain ⟨b, hb, rfl⟩ := List.mem_map.mp h
    exact .inl ⟨b, hb, name_overridden _ _, value_overridden _ _⟩
  · exact .inr (by simpa using h)

theorem h2Field_eq (nv : Header) : h2Field nv = (h1Field nv).map Header.lower := by
  unfold h2Field h1Field
  split_ifs <;> rfl

theorem filterMap_h2Field (l : List Header) : l.filterMap h2Field = (l.filterMap h1Field).map Header.lower := by
  rw [List.map_filterMap]; exact List.filterMap_congr fun nv _ => h2Field_eq nv

theorem find?_method_sharedNva (scheme host userAgent : List Char) (port defaultPort : Nat) (post : Bool)
    (custom : List Header) :
    (sharedNva (baseNva scheme host port defaultPort post userAgent) custom).find? (·.name == ":method".toList) =
      some (overridden custom ⟨":method".toList, if post then "POST".toList else "GET".toList⟩) := by
  rw [sharedNva_eq, baseNva]
  simp only [List.map_cons, List.cons_append, List.find?_cons, name_overridden]
  rfl

-- The request text as lines: the request line, a field per entry `h1Field` keeps, and the
-- `Content-Length` field when there is a body.
theorem h1Request_eq {shared : List Header} {m : Header} (cl req : List Char)
    (hm : shared.find? (·.name == ":method".toList) = some m) :
    h1Request shared cl req = some (((m.value ++ ' ' :: (req ++ " HTTP/1.1".toList)) ::
      (shared.filterMap h1Field ++ if cl.isEmpty then [] else [(⟨"Content-Length".toList, cl⟩ : Header)]).map
        fieldText ++ [[]]).flatMap (· ++ crlf)) := by
  rw [h1Request, hm, Option.map_some', flatMap_h1Line]
  congr 1
  split <;> simp [fieldText, crlf, List.flatMap_map, Function.comp_def]

theorem h2View_h2Nva {shared : List Header} {m : Header} (cl req : List Char)
    (hm : shared.find? (·.name == ":method".toList) = some m) :
    h2View (h2Nva shared cl req) = some (m.value, req,
      (shared.filterMap h1Field ++ if cl.isEmpty then [] else [(⟨"Content-Length".toList, cl⟩ : Header)]).map
        Header.lower) := by
  have e₁ : (":path".toList == ":method".toList) = false := by decide
  have e₂ : (":path".toList == ":path".toList) = true := by decide
  have e₃ : h2Field ⟨":path".toList, req⟩ = none := rfl
  rw [h2View, h2Nva, List.filterMap_append, List.filterMap_cons, filterMap_h2Field, List.map_append]
  simp only [List.cons_append, List.find?_cons, List.find?_append, e₁, e₂, e₃, hm, Option.or_some]
  split <;> rfl

theorem h1Field_readable {nv f : Header} (hf : h1Field nv = some f)
    (hc : nv.name.head? ≠ some ':' → ':' ∉ nv.name) (hn : '\n' ∉ nv.name) (hv : '\n' ∉ nv.value) :
    ':' ∉ f.name ∧ '\n' ∉ f.name ∧ '\n' ∉ f.value := by
  unfold h1Field at hf
  split_ifs at hf with h₁ h₂
  · cases hf; exact ⟨(by decide : ':' ∉ "Host".toList), (by decide : '\n' ∉ "Host".toList), hv⟩
  · cases hf; exact ⟨hc h₂, hn, hv⟩

theorem newline_not_mem_contentLengthStr (dataLength : Option Nat) : '\n' ∉ contentLengthStr dataLength := by
  cases dataLength
  · exact List.not_mem_nil _
  · exact newline_not_mem_repr _

variable {scheme host userAgent : List Char} {port defaultPort : Nat} {post : Bool} {custom : List Header}
  (hc : ∀ kv ∈ custom, (∃ arg, parseHeader arg = .ok kv) ∧ '\n' ∉ kv.name ∧ '\n' ∉ kv.value ∧
    (kv.name = ":method".toList → ' ' ∉ kv.value))
include hc

-- The method the request line shows is a single word.
theorem method_readable :
    ' ' ∉ (overridden custom ⟨":method".toList, if post then "POST".toList else "GET".toList⟩).value ∧
      '\n' ∉ (overridden custom ⟨":method".toList, if post then "POST".toList else "GET".toList⟩).value := by
  rcases value_overridden custom ⟨":method".toList, if post then "POST".toList else "GET".toList⟩ with
    e | ⟨kv, hk, ho, e⟩
  · rw [e]; cases post <;> decide
  · have hkn : kv.name = ":method".toList := (by simpa [overrides] using ho : ":method".toList = _).symm
    rw [e]; exact ⟨(hc kv hk).2.2.2 hkn, (hc kv hk).2.2.1⟩

-- Every field line of the request reads back as the field it was written from.
theorem fields_readable (hh : '\n' ∉ host) (hu : '\n' ∉ userAgent) :
    ∀ f ∈ (sharedNva (baseNva scheme host port defaultPort post userAgent) custom).filterMap h1Field,
      ':' ∉ f.name ∧ '\n' ∉ f.name ∧ '\n' ∉ f.value := by
  intro f hf
  obtain ⟨nv, hnv, hfe⟩ := List.mem_filterMap.mp hf
  rcases mem_sharedNva hnv with ⟨b, hb, hn, hv⟩ | ⟨hk, -⟩
  · have hvb : nv.value = b.value ∨ '\n' ∉ nv.value :=
      hv.imp_right fun ⟨kv, hk, _, e⟩ => e ▸ (hc kv hk).2.2.1
    simp only [baseNva, List.mem_cons, List.mem_singleton, List.not_mem_nil, or_false] at hb
    rcases hb with rfl | rfl | rfl | rfl
    · -- `:scheme` gives no field
      rw [h1Field, hn] at hfe; simp at hfe
    · -- `:authority` gives `Host`
      refine h1Field_readable hfe (by rw [hn]; dsimp only; decide) (by rw [hn]; dsimp only; decide) ?_
      rcases hvb with e | h
      · rw [e]; dsimp only; split_ifs
        · simp only [List.mem_append, List.mem_cons, not_or]
          exact ⟨hh, by decide, newline_not_mem_repr _⟩
        · exact hh
      · exact h
    · -- `:method` gives no field
      rw [h1Field, hn] at hfe; simp at hfe
    · refine h1Field_readable hfe (by rw [hn]; dsimp only; decide) (by rw [hn]; dsimp only; decide) (hvb.elim (· ▸ hu) id)
  · obtain ⟨⟨arg, hp⟩, h₁, h₂, -⟩ := hc nv hk
    exact h1Field_readable hfe (colon_not_mem_of_parseHeader hp) h₁ h₂

-- The HTTP/1.1 request `main` writes for a URI and the HTTP/2 header list it builds for it carry
-- the same request: the text reads back as a method, the target and a list of fields, and the
-- header list, read as an HTTP/2 server maps it, gives the same method, target and fields, up to
-- the case of the field names.
theorem h1_request_matches_nva {req : List Char} {dataLength : Option Nat}
    (hh : '\n' ∉ host) (hu : '\n' ∉ userAgent) (hr : ' ' ∉ req ∧ '\n' ∉ req) :
    ∃ text m fs,
      h1Request (sharedNva (baseNva scheme host port defaultPort post userAgent) custom)
          (contentLengthStr dataLength) req = some text ∧
        readRequest text = some (m, req, fs) ∧
        h2View (h2Nva (sharedNva (baseNva scheme host port defaultPort post userAgent) custom)
          (contentLengthStr dataLength) req) = some (m, req, fs.map Header.lower) := by
  have hm := find?_method_sharedNva scheme host userAgent port defaultPort post custom
  refine ⟨_, _, _, h1Request_eq _ _ hm, readRequest_lines (method_readable hc) hr fun f hf => ?_,
    h2View_h2Nva _ _ hm⟩
  rcases List.mem_append.mp hf with hf | hf
  · exact fields_readable hc hh hu f hf
  · split at hf
    · exact absurd hf (List.not_mem_nil _)
    · rw [List.mem_singleton] at hf; subst hf
      exact ⟨(by decide : ':' ∉ "Content-Length".toList), (by decide : '\n' ∉ "Content-Length".toList),
        newline_not_mem_contentLengthStr _⟩

end Agreement

-- A `GET /` carrying one header given as `-H 'X-Id: 7'`.
theorem h1_request_matches_nva_custom_header :
    (∀ kv ∈ [(⟨"x-id".toList, "7".toList⟩ : Header)], (∃ arg, parseHeader arg = .ok kv) ∧
        '\n' ∉ kv.name ∧ '\n' ∉ kv.value ∧ (kv.name = ":method".toList → ' ' ∉ kv.value)) ∧
      ∃ text m fs,
        h1Request (sharedNva (baseNva "http".toList "a".toList 80 80 false "h2load".toList)
            [⟨"x-id".toList, "7".toList⟩]) (contentLengthStr none) "/".toList = some text ∧
          readRequest text = some (m, "/".toList, fs) ∧
          h2View (h2Nva (sharedNva (baseNva "http".toList "a".toList 80 80 false "h2load".toList)
            [⟨"x-id".toList, "7".toList⟩]) (contentLengthStr none) "/".toList) =
            some (m, "/".toList, fs.map Header.lower) := by
  have hc : ∀ kv ∈ [(⟨"x-id".toList, "7".toList⟩ : Header)], (∃ arg, parseHeader arg = .ok kv) ∧
      '\n' ∉ kv.name ∧ '\n' ∉ kv.value ∧ (kv.name = ":method".toList → ' ' ∉ kv.value) := by
    simp only [List.mem_singleton, forall_eq]
    exact ⟨⟨"X-Id: 7".toList, rfl⟩, by decide, by decide, by decide⟩
  exact ⟨hc, h1_request_matches_nva hc (by decide) (by decide) (by decide)⟩

-- The URI file: what is read is the lines written, in order.
section UriFile

theorem readLines_append {l : List Char} (h : '\n' ∉ l) (cur rest : List Char) :
    readLines cur (l ++ '\n' :: rest) = (cur ++ l) :: readLines [] rest := by
  induction l generalizing cur with
  | nil => simp [readLines]
  | cons c l ih =>
    have hc : c ≠ '\n' := fun e => h (e ▸ List.mem_cons_self _ _)
    rw [List.cons_append, readLines, if_neg hc, ih (fun hl => h (List.mem_cons_of_mem _ hl)),
      List.append_assoc, List.singleton_append]

theorem readUriFromFile_flatMap {ls : List (List Char)} (h : ∀ l ∈ ls, '\n' ∉ l) :
    readUriFromFile (ls.flatMap (· ++ ['\n'])) = ls := by
  induction ls with
  | nil => rfl
  | cons l ls ih =>
    rw [readUriFromFile, List.flatMap_cons, List.append_assoc, List.singleton_append,
      readLines_append (h l (List.mem_cons_self _ _)), List.nil_append, ← readUriFromFile,
      ih fun x hx => h x (List.mem_cons_of_mem _ hx)]

theorem newline_not_mem_readLines : ∀ {cur s : List Char}, '\n' ∉ cur → ∀ l ∈ readLines cur s, '\n' ∉ l
  | cur, [], h, l, hl => by
    rw [readLines] at hl; split at hl
    · exact absurd hl (List.not_mem_nil _)
    · rw [List.mem_singleton] at hl; exact hl ▸ h
  | cur, c :: rest, h, l, hl => by
    rw [readLines] at hl; split at hl
    · rcases List.mem_cons.mp hl with rfl | hl
      · exact h
      · exact newline_not_mem_readLines (List.not_mem_nil _) l hl
    · next hc =>
      refine newline_not_mem_readLines (fun hm => ?_) l hl
      rcases List.mem_append.mp hm with hm | hm
      · exact h hm
      · exact hc (List.mem_singleton.mp hm).symm

theorem flatMap_readLines : ∀ {cur s : List Char}, '\n' ∉ cur →
    (readLines cur s).flatMap (· ++ ['\n']) =
      if (cur ++ s).getLast?.all (· == '\n') then cur ++ s else cur ++ s ++ ['\n']
  | cur, [], h => by
    rw [readLines, List.append_nil]
    split
    · next e => subst e; rfl
    · next hne =>
      obtain ⟨x, hx⟩ := Option.ne_none_iff_exists'.mp (mt List.getLast?_eq_none_iff.mp hne)
      have hx' : x ≠ '\n' := fun e => h (e ▸ List.mem_of_getLast?_eq_some hx)
      simp [hx, hx']
  | cur, c :: rest, h => by
    rw [readLines]
    split
    · next hc =>
      subst hc
      rw [List.flatMap_cons, flatMap_readLines (List.not_mem_nil _), List.nil_append]
      cases hr : rest.getLast? <;> simp_all [List.getLast?_cons]
      split_ifs <;> rfl
    · next hc =>
      have h' : '\n' ∉ cur ++ [c] := by
        simpa [not_or] using ⟨h, Ne.symm hc⟩
      rw [flatMap_readLines h', List.append_assoc, List.singleton_append]

theorem readLines_append_newline : ∀ {cur s : List Char}, (cur ++ s).getLast?.all (· == '\n') = false →
    readLines cur (s ++ ['\n']) = readLines cur s
  | cur, [], h => by
    have hne : cur ≠ [] := by rintro rfl; exact absurd h (by decide)
    simp [readLines, hne]
  | cur, c :: rest, h => by
    rw [List.cons_append, readLines, readLines]
    split
    · next hc =>
      subst hc
      have hr : ([] ++ rest).getLast?.all (· == '\n') = false := by
        cases hr : rest.getLast? <;> simp_all [List.getLast?_cons]
      rw [readLines_append_newline hr]
    · rw [readLines_append_newline (by rwa [List.append_assoc, List.singleton_append])]

-- What `read_uri_from_file` returns: the lines of its input, in order, without their line
-- breaks, and nothing else.
theorem readUriFromFile_eq_iff {s : List Char} {ls : List (List Char)} :
    readUriFromFile s = ls ↔ (∀ l ∈ ls, '\n' ∉ l) ∧
      ls.flatMap (· ++ ['\n']) = if s.getLast?.all (· == '\n') then s else s ++ ['\n'] := by
  constructor
  · rintro rfl
    exact ⟨newline_not_mem_readLines (List.not_mem_nil _), flatMap_readLines (List.not_mem_nil _)⟩
  · rintro ⟨h, e⟩
    rw [← readUriFromFile_flatMap h, e]
    split
    · rfl
    · next hl => exact (readLines_append_newline (Bool.not_eq_true _ ▸ hl)).symm

end UriFile

end Sofaload
