import Purroute.OriginForm
import Purroute.Router
import Purroute.Search

set_option autoImplicit false

namespace Purroute

open Search

def FirstLine (request line rest : Bytes) : Prop := request = line ++ (crlf ++ rest) ∧ ¬ crlf <:+: line

def Absolute (uri : Str) : Prop := startsWith uri "http://" = true ∨ startsWith uri "https://" = true

structure OnlyTargetRewritten (request : Bytes) : Prop where
  idempotent : toOriginForm (toOriginForm request) = toOriginForm request
  noLine : ¬ crlf <:+: request → toOriginForm request = request
  notText : ∀ line rest, FirstLine request line rest → fromUtf8 line = none → toOriginForm request = request
  fewParts : ∀ line rest text, FirstLine request line rest → fromUtf8 line = some text → (text.splitOn ' ').length < 3 →
    toOriginForm request = request
  notAbsolute : ∀ line rest text method uri more, FirstLine request line rest → fromUtf8 line = some text →
    text.splitOn ' ' = method :: uri :: more → ¬ Absolute uri → toOriginForm request = request
  rewritten : ∀ line rest text method uri more, FirstLine request line rest → fromUtf8 line = some text →
    text.splitOn ' ' = method :: uri :: more → more ≠ [] → Absolute uri →
    ∃ path, FirstLine (toOriginForm request) (utf8 (join ' ' (method :: ('/' :: path) :: more))) rest

section LineEnd

theorem line_end_cons (byte : UInt8) (rest : Bytes) (other : ¬ crlf <+: byte :: rest) :
    lineEnd (byte :: rest) = (lineEnd rest).map (· + 1) := by
  rw [lineEnd.eq_def]
  split
  · rename_i empty
    cases empty
  · rename_i tail spelled
    exact absurd ⟨tail, spelled.symm⟩ other
  · rename_i first tail _ spelled
    cases spelled
    rfl

theorem line_end_none (request : Bytes) : lineEnd request = none ↔ ¬ crlf <:+: request := by
  induction request with
  | nil =>
      refine iff_of_true rfl ?_
      rw [List.infix_nil]
      exact List.cons_ne_nil _ _
  | cons byte rest ih =>
      rw [List.infix_cons_iff]
      by_cases ends : crlf <+: byte :: rest
      · obtain ⟨tail, spelled⟩ := ends
        rw [← spelled]
        refine iff_of_false (fun same => by cases same) fun absent => absent (.inl ?_)
        exact List.prefix_append crlf tail
      · rw [line_end_cons byte rest ends, Option.map_eq_none_iff, ih]
        exact ⟨fun absent found => absent (found.resolve_left ends), fun absent later => absent (.inr later)⟩

theorem line_end_first (line rest : Bytes) (clean : ¬ crlf <:+: line) : lineEnd (line ++ (crlf ++ rest)) = some line.length := by
  induction line with
  | nil => rfl
  | cons byte line ih =>
      have inner : ¬ crlf <:+: line := fun found => clean (List.infix_cons found)
      have other : ¬ crlf <+: byte :: (line ++ (crlf ++ rest)) := by
        intro starts
        obtain ⟨rfl, second⟩ := List.cons_prefix_cons.mp starts
        cases line with
        | nil => exact absurd (List.cons_prefix_cons.mp second).1 (by decide)
        | cons next line =>
            obtain ⟨rfl, _⟩ := List.cons_prefix_cons.mp second
            exact clean ⟨[], line, rfl⟩
      rw [List.cons_append, line_end_cons _ _ other, ih inner]
      rfl

theorem first_line_exists (request : Bytes) (found : crlf <:+: request) : ∃ line rest, FirstLine request line rest := by
  induction request with
  | nil => exact absurd (List.infix_nil.mp found) (List.cons_ne_nil _ _)
  | cons byte request ih =>
      by_cases ends : crlf <+: byte :: request
      · obtain ⟨rest, spelled⟩ := ends
        refine ⟨[], rest, spelled.symm, ?_⟩
        rw [List.infix_nil]
        exact List.cons_ne_nil _ _
      · obtain ⟨line, rest, rfl, clean⟩ := ih ((List.infix_cons_iff.mp found).resolve_left ends)
        refine ⟨byte :: line, rest, rfl, fun within => ?_⟩
        rcases List.infix_cons_iff.mp within with starts | later
        · rw [← List.cons_append] at ends
          exact ends (starts.trans (List.prefix_append _ _))
        · exact clean later

theorem origin_form_first (line rest : Bytes) (clean : ¬ crlf <:+: line) :
    toOriginForm (line ++ (crlf ++ rest)) = (((fromUtf8 line).bind originLine).map utf8).getD line ++ (crlf ++ rest) := by
  rw [toOriginForm, line_end_first line rest clean]
  dsimp only
  rw [List.take_left, List.drop_left]
  cases (fromUtf8 line).bind originLine <;> rfl

end LineEnd

section Parts

theorem split_once_cut (separator : Char) (left right : Str) (absent : separator ∉ left) :
    splitOnce separator (left ++ separator :: right) = some (left, right) := by
  have present : separator ∈ left ++ separator :: right := List.mem_append_right left List.mem_cons_self
  cases split : splitOnce separator (left ++ separator :: right) with
  | none =>
      rw [splitOnce, if_pos present] at split
      cases split
  | some cut =>
      obtain ⟨same, solid⟩ := split_once_some separator _ cut.1 cut.2 split
      obtain ⟨rfl, rfl⟩ := cut_unique separator left right cut.1 cut.2 absent solid same
      rfl

theorem split_once_absent (separator : Char) (text : Str) (absent : separator ∉ text) : splitOnce separator text = none := by
  rw [splitOnce, if_neg absent]

theorem split_join (text : Str) : join ' ' (text.splitOn ' ') = text := List.intercalate_splitOn ' '

theorem split_parts (parts : List Str) (spaceless : ∀ part ∈ parts, ' ' ∉ part) (filled : parts ≠ []) :
    (join ' ' parts).splitOn ' ' = parts := List.splitOn_intercalate ' ' spaceless filled

theorem origin_line_cut (method uri version : Str) (solid : ' ' ∉ method) (inner : ' ' ∉ uri) :
    originLine (method ++ ' ' :: (uri ++ ' ' :: version)) =
      (originPath uri).map fun path => method ++ ' ' :: (path ++ ' ' :: version) := by
  rw [originLine, split_once_cut ' ' method _ solid]
  change ((splitOnce ' ' (uri ++ ' ' :: version)).bind fun cut => _) = _
  rw [split_once_cut ' ' uri _ inner, Option.bind_some, originPath]
  dsimp only
  cases stripScheme uri with
  | none => rfl
  | some rest =>
      rw [Option.map_some, Option.map_some]
      simp

theorem origin_line_parts (text method uri : Str) (more : List Str) (parts : text.splitOn ' ' = method :: uri :: more)
    (filled : more ≠ []) : originLine text = (originPath uri).map fun path => join ' ' (method :: path :: more) := by
  have free := fun part => split_part_free ' ' text part
  have whole := split_join text
  rw [parts] at free whole
  obtain ⟨version, others, rfl⟩ := List.exists_cons_of_ne_nil filled
  have cut := origin_line_cut method uri (join ' ' (version :: others)) (free method List.mem_cons_self)
    (free uri (List.mem_cons_of_mem _ List.mem_cons_self))
  rw [← whole, join_cons, join_cons, cut]
  simp only [join_cons]

theorem origin_line_few (text : Str) (few : (text.splitOn ' ').length < 3) : originLine text = none := by
  have whole := split_join text
  have free := fun part => split_part_free ' ' text part
  match parts : text.splitOn ' ' with
  | [] => exact absurd parts (List.splitOn_ne_nil ' ' text)
  | [method] =>
      rw [parts] at whole free
      have same : method = text := by simpa [join, List.intercalate] using whole
      rw [originLine, split_once_absent ' ' text (same ▸ free method List.mem_cons_self)]
      rfl
  | [method, uri] =>
      rw [parts] at whole free
      have last : join ' ' [uri] = uri := by simp [join, List.intercalate]
      have first := split_once_cut ' ' method uri (free method List.mem_cons_self)
      have second := split_once_absent ' ' uri (free uri (List.mem_cons_of_mem _ List.mem_cons_self))
      rw [← whole, join_cons, last, originLine, first]
      change (splitOnce ' ' uri).bind _ = none
      rw [second]
      rfl
  | method :: uri :: version :: more =>
      rw [parts, List.length_cons, List.length_cons, List.length_cons] at few
      omega

theorem strip_scheme_none (uri : Str) (relative : ¬ Absolute uri) : stripScheme uri = none := by
  rw [Absolute, not_or] at relative
  rw [stripScheme, stripPrefix, stripPrefix, if_neg relative.1, if_neg relative.2]

theorem strip_scheme_absolute (uri : Str) (absolute : Absolute uri) : ∃ rest, stripScheme uri = some rest := by
  rw [stripScheme]
  cases plain : stripPrefix uri "http://" with
  | some rest => exact ⟨rest, rfl⟩
  | none =>
      rw [stripPrefix] at plain ⊢
      rcases absolute with http | https
      · rw [if_pos http] at plain
        cases plain
      · exact ⟨_, if_pos https⟩

theorem origin_path_end (uri path : Str) (known : originPath uri = some path) : path = ['/'] ∨ path <:+ uri := by
  obtain ⟨rest, stripped, rfl⟩ := Option.map_eq_some_iff.mp known
  obtain ⟨more, rfl⟩ := strip_scheme_some uri rest stripped
  split
  · exact .inr ((List.dropWhile_suffix _).trans (List.suffix_append _ _))
  · exact .inl rfl

theorem crlf_spaced (left right : Bytes) : crlf <:+: left ++ 32 :: right ↔ crlf <:+: left ∨ crlf <:+: right :=
  infix_cut crlf left right 32 (by decide)

theorem spaced_bytes (left right : Str) : utf8 (left ++ ' ' :: right) = utf8 left ++ 32 :: utf8 right := by
  rw [utf8_append, utf8_cons]
  rfl

theorem rewritten_clean (method uri path : Str) (more : List Str) (filled : more ≠ []) (known : originPath uri = some path)
    (clean : ¬ crlf <:+: utf8 (join ' ' (method :: uri :: more))) : ¬ crlf <:+: utf8 (join ' ' (method :: path :: more)) := by
  obtain ⟨version, others, rfl⟩ := List.exists_cons_of_ne_nil filled
  rw [join_cons, join_cons, spaced_bytes, spaced_bytes, crlf_spaced, crlf_spaced] at clean ⊢
  have target : crlf <:+: utf8 path → crlf <:+: utf8 uri := by
    intro found
    rcases origin_path_end uri path known with rfl | ⟨front, rfl⟩
    · exact absurd found (by decide)
    · rw [utf8_append]
      exact found.trans (List.suffix_append _ _).isInfix
  exact fun found => clean (found.imp_right fun later => later.imp_left target)

end Parts

section Rewritten

theorem origin_form_unchanged (line rest : Bytes) (clean : ¬ crlf <:+: line) (kept : (fromUtf8 line).bind originLine = none) :
    toOriginForm (line ++ (crlf ++ rest)) = line ++ (crlf ++ rest) := by
  rw [origin_form_first line rest clean, kept]
  rfl

theorem origin_form_rewritten (line rest : Bytes) (text method uri : Str) (more : List Str) (clean : ¬ crlf <:+: line)
    (decoded : fromUtf8 line = some text) (parts : text.splitOn ' ' = method :: uri :: more)
    (filled : more ≠ []) (absolute : Absolute uri) :
    ∃ path, originPath uri = some ('/' :: path) ∧
      FirstLine (toOriginForm (line ++ (crlf ++ rest))) (utf8 (join ' ' (method :: ('/' :: path) :: more))) rest := by
  obtain ⟨stripped, scheme⟩ := strip_scheme_absolute uri absolute
  have known : ∃ path, originPath uri = some path := ⟨_, by rw [originPath, scheme]; rfl⟩
  obtain ⟨target, known⟩ := known
  obtain ⟨_, ⟨path, rfl⟩, _⟩ := origin_path_some uri target known
  have line' : line = utf8 (join ' ' (method :: uri :: more)) := by
    rw [from_utf8_some line text decoded, ← parts, split_join]
  refine ⟨path, known, ?_, rewritten_clean method uri _ more filled known (line' ▸ clean)⟩
  rw [origin_form_first line rest clean, decoded, Option.bind_some, origin_line_parts text method uri more parts filled, known]
  rfl

theorem slash_relative (path : Str) : ¬ Absolute ('/' :: path) := by
  have http : startsWith ('/' :: path) "http://" = false := rfl
  have https : startsWith ('/' :: path) "https://" = false := rfl
  rw [Absolute, http, https]
  exact not_or.mpr ⟨Bool.false_ne_true, Bool.false_ne_true⟩

theorem origin_line_relative (text method uri : Str) (more : List Str) (parts : text.splitOn ' ' = method :: uri :: more)
    (relative : ¬ Absolute uri) : originLine text = none := by
  by_cases filled : more = []
  · apply origin_line_few
    rw [parts, filled]
    exact Nat.lt_succ_self 2
  · rw [origin_line_parts text method uri more parts filled, originPath, strip_scheme_none uri relative]
    rfl

theorem origin_line_absolute (text : Str) (rewritten : originLine text ≠ none) :
    ∃ method uri more, text.splitOn ' ' = method :: uri :: more ∧ more ≠ [] ∧ Absolute uri := by
  match parts : text.splitOn ' ' with
  | [] => exact absurd parts (List.splitOn_ne_nil ' ' text)
  | [method] => exact absurd (origin_line_few text (by rw [parts, List.length_singleton]; decide)) rewritten
  | [method, uri] => exact absurd (origin_line_few text (by rw [parts]; exact Nat.lt_succ_self 2)) rewritten
  | method :: uri :: version :: more =>
      refine ⟨method, uri, version :: more, rfl, List.cons_ne_nil _ _, ?_⟩
      by_contra relative
      exact rewritten (origin_line_relative text method uri (version :: more) parts relative)

theorem origin_form_settled (line rest : Bytes) (text method uri : Str) (more : List Str) (clean : ¬ crlf <:+: line)
    (decoded : fromUtf8 line = some text) (parts : text.splitOn ' ' = method :: uri :: more)
    (filled : more ≠ []) (absolute : Absolute uri) :
    toOriginForm (toOriginForm (line ++ (crlf ++ rest))) = toOriginForm (line ++ (crlf ++ rest)) := by
  obtain ⟨path, known, spelled, still⟩ := origin_form_rewritten line rest text method uri more clean decoded parts filled absolute
  have free := fun part => split_part_free ' ' text part
  rw [parts] at free
  rw [List.forall_mem_cons, List.forall_mem_cons] at free
  have spaceless : ' ' ∉ '/' :: path := (origin_path_some uri _ known).2.2 free.2.1
  have again : (join ' ' (method :: ('/' :: path) :: more)).splitOn ' ' = method :: ('/' :: path) :: more := by
    apply split_parts _ _ (List.cons_ne_nil _ _)
    rw [List.forall_mem_cons, List.forall_mem_cons]
    exact ⟨free.1, spaceless, free.2.2⟩
  rw [spelled, origin_form_unchanged _ rest still]
  rw [from_utf8_encoded, Option.bind_some, origin_line_relative _ method _ more again (slash_relative path)]

theorem only_target_rewritten (request : Bytes) : OnlyTargetRewritten request where
  idempotent := by
    by_cases found : crlf <:+: request
    · obtain ⟨line, rest, rfl, clean⟩ := first_line_exists request found
      cases decoded : fromUtf8 line with
      | none =>
          have kept := origin_form_unchanged line rest clean (by rw [decoded]; rfl)
          rw [kept, kept]
      | some text =>
          by_cases kept : originLine text = none
          · have same := origin_form_unchanged line rest clean (by rw [decoded]; exact kept)
            rw [same, same]
          · obtain ⟨method, uri, more, parts, filled, absolute⟩ := origin_line_absolute text kept
            exact origin_form_settled line rest text method uri more clean decoded parts filled absolute
    · have kept : toOriginForm request = request := by rw [toOriginForm, (line_end_none request).mpr found]
      rw [kept, kept]
  noLine := by
    intro absent
    rw [toOriginForm, (line_end_none request).mpr absent]
  notText := by
    intro line rest ⟨whole, clean⟩ invalid
    rw [whole]
    exact origin_form_unchanged line rest clean (by rw [invalid]; rfl)
  fewParts := by
    intro line rest text ⟨whole, clean⟩ decoded few
    rw [whole]
    exact origin_form_unchanged line rest clean (by rw [decoded]; exact origin_line_few text few)
  notAbsolute := by
    intro line rest text method uri more ⟨whole, clean⟩ decoded parts relative
    rw [whole]
    exact origin_form_unchanged line rest clean (by rw [decoded]; exact origin_line_relative text method uri more parts relative)
  rewritten := by
    intro line rest text method uri more ⟨whole, clean⟩ decoded parts filled absolute
    rw [whole]
    obtain ⟨path, _, first⟩ := origin_form_rewritten line rest text method uri more clean decoded parts filled absolute
    exact ⟨path, first⟩

end Rewritten

end Purroute
