import Purroute.Request

set_option autoImplicit false

namespace Purroute

theorem split_once_some (separator : Char) (text left right : Str) (split : splitOnce separator text = some (left, right)) :
    text = left ++ separator :: right ∧ separator ∉ left := by
  unfold splitOnce at split
  by_cases present : separator ∈ text
  · obtain ⟨before, after, rfl, absent⟩ := List.eq_append_cons_of_mem present
    rw [if_pos present] at split
    have solid : ∀ c ∈ before, decide (c ≠ separator) = true := fun c member => decide_eq_true fun same => absent (same ▸ member)
    rw [List.takeWhile_append_of_pos solid, List.dropWhile_append_of_pos solid] at split
    simp at split
    obtain ⟨rfl, rfl⟩ := split
    exact ⟨rfl, absent⟩
  · rw [if_neg present] at split
    cases split

def originPath (uri : Str) : Option Str :=
  (stripScheme uri).map fun rest => if '/' ∈ rest then rest.dropWhile (· ≠ '/') else ['/']

theorem strip_prefix_some (text pattern rest : Str) (stripped : stripPrefix text pattern = some rest) :
    text = pattern ++ rest := by
  unfold stripPrefix at stripped
  split at stripped
  · rename_i starts
    obtain ⟨tail, rfl⟩ := List.isPrefixOf_iff_prefix.mp starts
    cases stripped
    rw [List.drop_left]
  · cases stripped

theorem strip_scheme_some (uri rest : Str) (stripped : stripScheme uri = some rest) : ∃ more, uri = 'h' :: more ++ rest := by
  unfold stripScheme at stripped
  cases plain : stripPrefix uri "http://" with
  | some tail =>
      rw [plain] at stripped
      cases stripped
      exact ⟨"ttp://".toList, strip_prefix_some uri "http://" rest plain⟩
  | none =>
      rw [plain] at stripped
      exact ⟨"ttps://".toList, strip_prefix_some uri "https://" rest stripped⟩

theorem origin_path_some (uri path : Str) (known : originPath uri = some path) :
    (∃ tail, uri = 'h' :: tail) ∧ (∃ tail, path = '/' :: tail) ∧ (' ' ∉ uri → ' ' ∉ path) := by
  unfold originPath at known
  obtain ⟨rest, stripped, rfl⟩ := Option.map_eq_some_iff.mp known
  obtain ⟨more, rfl⟩ := strip_scheme_some uri rest stripped
  have scheme : ∃ tail, 'h' :: more ++ rest = 'h' :: tail := ⟨more ++ rest, rfl⟩
  by_cases slash : '/' ∈ rest
  · obtain ⟨before, after, rfl, absent⟩ := List.eq_append_cons_of_mem slash
    have solid : ∀ c ∈ before, decide (c ≠ '/') = true := fun c member => decide_eq_true fun same => absent (same ▸ member)
    have path : (before ++ '/' :: after).dropWhile (· ≠ '/') = '/' :: after := by
      rw [List.dropWhile_append_of_pos solid]
      rfl
    rw [if_pos slash, path]
    refine ⟨scheme, ⟨after, rfl⟩, fun spaceless space => spaceless ?_⟩
    exact List.mem_append_right _ (List.mem_append_right _ space)
  · rw [if_neg slash]
    exact ⟨scheme, ⟨[], rfl⟩, fun _ => by decide⟩

theorem origin_line_some (firstLine line : Str) (rewritten : originLine firstLine = some line) :
    ∃ method uri path version, firstLine = method ++ ' ' :: (uri ++ ' ' :: version) ∧
      line = method ++ ' ' :: (path ++ ' ' :: version) ∧
      ' ' ∉ method ∧ ' ' ∉ uri ∧ originPath uri = some path := by
  unfold originLine at rewritten
  simp only [Option.bind_eq_bind, Option.bind_eq_some_iff] at rewritten
  obtain ⟨⟨method, tail⟩, first, ⟨uri, version⟩, second, rest, stripped, same⟩ := rewritten
  obtain ⟨rfl, methodSolid⟩ := split_once_some ' ' firstLine method tail first
  obtain ⟨rfl, uriSolid⟩ := split_once_some ' ' tail uri version second
  refine ⟨method, uri, _, version, rfl, ?_, methodSolid, uriSolid, by rw [originPath, stripped, Option.map_some]⟩
  rw [← Option.some.inj same]
  simp only [List.append_assoc]
  rfl

theorem origin_form_cases (request : Bytes) : toOriginForm request = request ∨
    ∃ method uri path tail, request = utf8 method ++ 32 :: (utf8 uri ++ 32 :: tail) ∧
      toOriginForm request = utf8 method ++ 32 :: (utf8 path ++ 32 :: tail) ∧ ' ' ∉ method ∧
        ' ' ∉ uri ∧ originPath uri = some path := by
  unfold toOriginForm
  cases lineEnd request with
  | none => exact Or.inl rfl
  | some stop =>
      dsimp only
      cases rewritten : (fromUtf8 (request.take stop)).bind originLine with
      | none => exact Or.inl rfl
      | some line =>
          obtain ⟨firstLine, decoded, rewritten⟩ := Option.bind_eq_some_iff.mp rewritten
          obtain ⟨method, uri, path, version, rfl, rfl, methodSolid, uriSolid, known⟩ := origin_line_some firstLine line rewritten
          have spaced : ∀ target, utf8 (method ++ ' ' :: (target ++ ' ' :: version)) ++ request.drop stop =
              utf8 method ++ 32 :: (utf8 target ++ 32 :: (utf8 version ++ request.drop stop)) := by
            intro target
            rw [utf8_append, utf8_cons, utf8_append, utf8_cons, List.append_assoc, List.append_assoc,
              List.append_assoc, List.append_assoc]
            rfl
          have whole := List.take_append_drop stop request
          rw [from_utf8_some _ _ decoded, spaced uri] at whole
          exact Or.inr ⟨method, uri, path, _, whole.symm, spaced path, methodSolid, uriSolid, known⟩

theorem first_two (separator : UInt8) (bytes : Bytes) (twice : 2 ≤ bytes.count separator) :
    ∃ before between after, bytes = before ++ separator :: (between ++ separator :: after) ∧
      separator ∉ before ∧ separator ∉ between := by
  have present : separator ∈ bytes := List.count_pos_iff.mp (by omega)
  obtain ⟨before, more, rfl, absent⟩ := List.eq_append_cons_of_mem present
  have again : separator ∈ more := by
    rw [List.count_append, List.count_cons_self, List.count_eq_zero.mpr absent] at twice
    exact List.count_pos_iff.mp (by omega)
  obtain ⟨between, after, rfl, absent'⟩ := List.eq_append_cons_of_mem again
  exact ⟨before, between, after, rfl, absent, absent'⟩

theorem spaceless_bytes (text : Str) (solid : ' ' ∉ text) : (32 : UInt8) ∉ utf8 text :=
  fun member => solid (utf8_ascii_mem text ' ' (by decide) member)

theorem two_cuts_unique (before between after before' between' after' : Bytes) (solid : 32 ∉ before) (solid' : 32 ∉ before')
    (inner : 32 ∉ between) (inner' : 32 ∉ between')
    (same : before ++ 32 :: (between ++ 32 :: after) = before' ++ 32 :: (between' ++ 32 :: after')) :
    before = before' ∧ between = between' ∧ after = after' := by
  obtain ⟨first, more⟩ := cut_unique 32 before _ before' _ solid solid' same
  obtain ⟨second, rest⟩ := cut_unique 32 between after between' after' inner inner' more
  exact ⟨first, second, rest⟩

def originTarget (target : Bytes) : Option Bytes := ((fromUtf8 target).bind originPath).map utf8

theorem origin_target_some (target path : Bytes) (known : originTarget target = some path) :
    (∃ tail, target = 104 :: tail) ∧ (∃ tail, path = 47 :: tail) ∧ (32 ∉ target → 32 ∉ path) := by
  obtain ⟨text, decoded, rfl⟩ := Option.map_eq_some_iff.mp known
  obtain ⟨uri, spelled, known⟩ := Option.bind_eq_some_iff.mp decoded
  obtain ⟨⟨more, rfl⟩, ⟨tail, rfl⟩, solid⟩ := origin_path_some uri text known
  rw [from_utf8_some target _ spelled]
  refine ⟨⟨utf8 more, rfl⟩, ⟨utf8 tail, rfl⟩, fun spaceless => ?_⟩
  apply spaceless_bytes
  apply solid
  intro space
  exact spaceless (List.mem_flatMap.mpr ⟨' ', space, by decide⟩)

theorem origin_form_spaced (before between after : Bytes) (solid : 32 ∉ before) (inner : 32 ∉ between) :
    toOriginForm (before ++ 32 :: (between ++ 32 :: after)) = before ++ 32 :: (between ++ 32 :: after) ∨
      ∃ path, originTarget between = some path ∧
        toOriginForm (before ++ 32 :: (between ++ 32 :: after)) = before ++ 32 :: (path ++ 32 :: after) := by
  rcases origin_form_cases (before ++ 32 :: (between ++ 32 :: after)) with
    unchanged | ⟨method, uri, path, tail, whole, form, methodSolid, uriSolid, known⟩
  · exact Or.inl unchanged
  · obtain ⟨rfl, rfl, rfl⟩ := two_cuts_unique before between after _ _ tail solid (spaceless_bytes method methodSolid) inner
      (spaceless_bytes uri uriSolid) whole
    refine Or.inr ⟨utf8 path, ?_, form⟩
    rw [originTarget, from_utf8_encoded, Option.bind_some, known, Option.map_some]

theorem origin_form_injective (front first second : Bytes) (spaces : 2 ≤ front.count 32)
    (same : toOriginForm (front ++ first) = toOriginForm (front ++ second)) : first = second := by
  obtain ⟨before, between, after, rfl, solid, inner⟩ := first_two 32 front spaces
  have spread : ∀ tail, before ++ 32 :: (between ++ 32 :: after) ++ tail =
    before ++ 32 :: (between ++ 32 :: (after ++ tail)) := by
    intro tail
    simp
  have apart : ∀ path, originTarget between = some path → ∀ left right : Bytes,
      before ++ 32 :: (between ++ 32 :: left) ≠ before ++ 32 :: (path ++ 32 :: right) := by
    intro path known left right equal
    obtain ⟨⟨uriTail, scheme⟩, ⟨pathTail, slash⟩, spaceless⟩ := origin_target_some between path known
    have target := (two_cuts_unique before between left before path right solid solid inner (spaceless inner) equal).2.1
    rw [scheme, slash] at target
    cases target
  rw [spread, spread] at same
  rcases origin_form_spaced before between (after ++ first) solid inner with one | ⟨path, known, one⟩
  · rcases origin_form_spaced before between (after ++ second) solid inner with two | ⟨path, known, two⟩
    · rw [one, two] at same
      exact List.append_cancel_left (two_cuts_unique _ _ _ _ _ _ solid solid inner inner same).2.2
    · rw [one, two] at same
      exact absurd same (apart path known _ _)
  · rcases origin_form_spaced before between (after ++ second) solid inner with two | ⟨path', known', two⟩
    · rw [one, two] at same
      exact absurd same.symm (apart path known _ _)
    · rw [one, two] at same
      cases known.symm.trans known'
      have spaceless := (origin_target_some between path known).2.2 inner
      exact List.append_cancel_left (two_cuts_unique _ _ _ _ _ _ solid solid spaceless spaceless same).2.2

end Purroute
