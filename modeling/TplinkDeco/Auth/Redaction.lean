-- The session token in the URL of a request, and what the transport leaves of it in its log and
-- in its exceptions. The token is hidden exactly if it has no character that ends the match.
import TplinkDeco.Http.EndpointCatalog
import TplinkDeco.Lib.Substitution
import TplinkDeco.Lib.Text
import Mathlib.Data.List.TakeWhile

open substitution

namespace tplink_deco_api.auth

open endpoint_catalog (stripped)

/-! ## The URL and the redaction -/

def endpoint_url (host stok path : String) (form : Option String) : String :=
  let url := "https://" ++ host ++ "/cgi-bin/luci/;stok=" ++ stok ++ "/" ++ stripped '/' path
  match form with
  | some form => url ++ "?form=" ++ form
  | none => url

/-- The characters outside `[^/;?\s]`. -/
def ends_token (c : Char) : Bool := c = '/' || c = ';' || c = '?' || text.is_space c

/-- `(?P<prefix>;stok=)[^/;?\s]+`, as the length of its match. -/
def STOK_RE (url : List Char) : Option Nat :=
  if ";stok=".toList.isPrefixOf url then
    let token := (url.drop 6).takeWhile fun c => ! ends_token c
    if token = [] then none else some (6 + token.length)
  else none

def redacted (url : List Char) : List Char := sub STOK_RE ";stok=<redacted>".toList 0 url

def redact_session_token (url : String) : String := String.ofList (redacted url.toList)

/-- A token up to the first character that ends it. -/
def hidden (stok : String) : List Char := stok.toList.takeWhile fun c => ! ends_token c

/-- A token from the first character that ends it. -/
def exposed (stok : String) : List Char := stok.toList.dropWhile fun c => ! ends_token c

/-- What is left of a token in a URL. -/
def left_of (stok : String) : List Char := redacted (";stok=".toList ++ stok.toList)

/-! ## The parts of a URL -/

theorem STOK_RE_length (url : List Char) (n : Nat) (h : STOK_RE url = some n) :
    n ≤ url.length := by
  unfold STOK_RE at h
  split at h
  · rename_i hprefix
    have hlength := (List.isPrefixOf_iff_prefix.mp hprefix).length_le
    have htoken := (List.takeWhile_prefix (fun c => ! ends_token c) (l := url.drop 6)).length_le
    rw [List.length_drop] at htoken
    simp only [Option.ite_none_left_eq_some, Option.some.injEq] at h
    have hsix : ";stok=".toList.length = 6 := rfl
    omega
  · cases h

theorem ends_token_not_mem {d : Char} (hd : ends_token d = true) : d ∉ "stok=".toList := by
  intro hmem
  have hfree : ("stok=".toList.all fun c => ! ends_token c) = true := by decide
  simpa [hd] using List.all_eq_true.mp hfree d hmem

/-- A prefix does not go beyond a character that it does not have. -/
theorem prefix_append_cons {p xs ys : List Char} {d : Char} (hne : xs ≠ []) (hd : d ∉ p.tail) :
    p <+: xs ++ d :: ys ↔ p <+: xs := by
  constructor
  · intro h
    rcases List.prefix_or_prefix_of_prefix h (List.prefix_append xs _) with hshort | ⟨q, rfl⟩
    · exact hshort
    · rw [List.prefix_append_right_inj] at h
      cases q with
      | nil => simp
      | cons c q =>
        rw [List.cons_prefix_cons] at h
        obtain ⟨x, xs, rfl⟩ := List.exists_cons_of_ne_nil hne
        simp [h.1] at hd
  · exact fun h => h.trans (List.prefix_append xs _)

theorem takeWhile_append_cons {q : Char → Bool} {d : Char} (hd : q d = false)
    (xs ys : List Char) : (xs ++ d :: ys).takeWhile q = xs.takeWhile q := by
  induction xs with
  | nil => simp [hd]
  | cons x xs ih =>
    rw [List.cons_append, List.takeWhile_cons, List.takeWhile_cons, ih]

/-- No match goes beyond a character that ends a token. -/
theorem STOK_RE_append {d : Char} (hd : ends_token d = true) {xs ys : List Char} (hne : xs ≠ []) :
    STOK_RE (xs ++ d :: ys) = STOK_RE xs := by
  have hshort : ";stok=".toList <+: xs ++ d :: ys ↔ ";stok=".toList <+: xs :=
    prefix_append_cons hne (ends_token_not_mem hd)
  unfold STOK_RE
  simp only [List.isPrefixOf_iff_prefix, hshort]
  by_cases hprefix : ";stok=".toList <+: xs
  · have hsix : 6 ≤ xs.length := hprefix.length_le
    rw [List.drop_append_of_le_length hsix, takeWhile_append_cons (by simp [hd])]
  · rw [if_neg hprefix, if_neg hprefix]

theorem redacted_append {d : Char} (hd : ends_token d = true) (xs ys : List Char) :
    redacted (xs ++ d :: ys) = redacted xs ++ redacted (d :: ys) := by
  apply sub_append _ STOK_RE_length 0 (Nat.zero_le _)
  intro suffix hne _
  exact STOK_RE_append hd hne

theorem redacted_cons {c : Char} (hc : c ≠ ';') (rest : List Char) :
    redacted (c :: rest) = c :: redacted rest := by
  apply sub_of_none
  simp [STOK_RE, hc.symm]

theorem redacted_plain {xs : List Char} (h : ∀ c ∈ xs, c ≠ ';') (ys : List Char) :
    redacted (xs ++ ys) = xs ++ redacted ys := by
  induction xs with
  | nil => rfl
  | cons x xs ih =>
    rw [List.cons_append, redacted_cons (h x List.mem_cons_self),
      ih fun c hc => h c (List.mem_cons_of_mem x hc)]
    rfl

theorem redacted_eq_self {xs : List Char} (h : ¬ ";stok=".toList <:+: xs) : redacted xs = xs := by
  apply substitution.sub_eq_self
  intro suffix hsuffix
  unfold STOK_RE
  rw [if_neg]
  intro hprefix
  exact h ((List.isPrefixOf_iff_prefix.mp hprefix).isInfix.trans hsuffix.isInfix)

/-- A replacement begins with the character that it replaces. -/
theorem head?_redacted (c : Char) (rest : List Char) : (redacted (c :: rest)).head? = some c := by
  by_cases hc : c = ';'
  · rw [hc, redacted, sub]
    split <;> rfl
  · rw [redacted_cons hc]
    rfl

/-! ## What is left of a token -/

/-- A token that nothing ends is replaced. -/
theorem redacted_token {token : List Char} (hne : token ≠ [])
    (h : ∀ c ∈ token, ends_token c = false) :
    redacted (";stok=".toList ++ token) = ";stok=<redacted>".toList := by
  have hall : token.takeWhile (fun c => ! ends_token c) = token := by
    rw [List.takeWhile_eq_self_iff]
    intro c hc
    simp [h c hc]
  have hmatch : STOK_RE (';' :: ("stok=".toList ++ token)) = some (5 + token.length + 1) := by
    have hprefix : ";stok=".toList.isPrefixOf (';' :: ("stok=".toList ++ token)) = true :=
      List.isPrefixOf_iff_prefix.mpr (List.prefix_append ";stok=".toList token)
    have hdrop : (";stok=".toList ++ token).drop 6 = token := List.drop_left' rfl
    change (';' :: ("stok=".toList ++ token)).drop 6 = token at hdrop
    rw [STOK_RE, if_pos hprefix, hdrop]
    simp only [hall, if_neg hne]
    congr 1
    omega
  have hrest : ("stok=".toList ++ token).drop (5 + token.length) = [] := by
    apply List.drop_of_length_le
    rw [List.length_append]
    exact Nat.le_refl _
  show sub STOK_RE ";stok=<redacted>".toList 0 (';' :: ("stok=".toList ++ token)) = _
  rw [sub_of_some hmatch, hrest, sub_nil, List.append_nil]

section

variable {stok stok' : String}

theorem hidden_append_exposed (stok : String) : hidden stok ++ exposed stok = stok.toList :=
  List.takeWhile_append_dropWhile

theorem ends_token_hidden : ∀ c ∈ hidden stok, ends_token c = false :=
  fun c hc => by simpa using List.mem_takeWhile_imp hc

/-- Nothing is exposed, or the first character is one that ends the token. -/
theorem exposed_cases (stok : String) :
    exposed stok = [] ∨ ∃ d rest, exposed stok = d :: rest ∧ ends_token d = true := by
  cases h : exposed stok with
  | nil => exact Or.inl rfl
  | cons d rest =>
    right
    have hhead := List.head?_dropWhile_not (fun c => ! ends_token c) stok.toList
    rw [exposed] at h
    rw [h] at hhead
    exact ⟨d, rest, rfl, by simpa using hhead⟩

theorem exposed_eq_nil_iff : exposed stok = [] ↔ ∀ c ∈ stok.toList, ends_token c = false := by
  simp [exposed, List.dropWhile_eq_nil_iff]

/-- The mark, where something was hidden, and then what was exposed. -/
theorem left_of_eq (stok : String) :
    left_of stok = (if hidden stok = [] then ";stok=".toList else ";stok=<redacted>".toList) ++
      redacted (exposed stok) := by
  have hhidden : redacted (";stok=".toList ++ hidden stok) =
      if hidden stok = [] then ";stok=".toList else ";stok=<redacted>".toList := by
    split
    · rename_i hnone
      have hmark : redacted (";stok=".toList ++ []) = ";stok=".toList := by decide
      rw [hnone, hmark]
    · rename_i hsome
      exact redacted_token hsome ends_token_hidden
  rw [left_of, ← hidden_append_exposed stok, ← List.append_assoc]
  rcases exposed_cases stok with hnone | ⟨d, rest, hrest, hd⟩
  · have hnothing : redacted [] = [] := rfl
    rw [hnone, List.append_nil, hhidden, hnothing, List.append_nil]
  · rw [hrest, redacted_append hd, hhidden]

theorem mark_eq : ";stok=<redacted>".toList = ";stok=".toList ++ "<redacted>".toList := by decide

/-- What is exposed does not look like the mark. -/
theorem mark_ne_exposed (stok : String) (rest : List Char) :
    redacted (exposed stok) ≠ "<redacted>".toList ++ rest := by
  intro h
  have hmark : "<redacted>".toList ++ rest = '<' :: ("redacted>".toList ++ rest) := rfl
  rcases exposed_cases stok with hnone | ⟨d, rest', hrest, hd⟩
  · rw [hnone, hmark] at h
    cases h
  · have hhead := head?_redacted d rest'
    rw [← hrest, h, hmark] at hhead
    obtain rfl : '<' = d := Option.some.inj hhead
    cases hd

/-- The same is left of two tokens exactly if both have a hidden part or none has, and the same is
left of their exposed parts. -/
theorem left_of_eq_iff : left_of stok = left_of stok' ↔
    (hidden stok = [] ↔ hidden stok' = []) ∧
      redacted (exposed stok) = redacted (exposed stok') := by
  rw [left_of_eq, left_of_eq]
  by_cases h : hidden stok = []
  · by_cases h' : hidden stok' = []
    · rw [if_pos h, if_pos h', List.append_right_inj]
      simp [h, h']
    · rw [if_pos h, if_neg h', mark_eq, List.append_assoc, List.append_right_inj]
      exact iff_of_false (mark_ne_exposed stok _) fun hboth => h' (hboth.1.mp h)
  · by_cases h' : hidden stok' = []
    · rw [if_neg h, if_pos h', mark_eq, List.append_assoc, List.append_right_inj]
      exact iff_of_false (mark_ne_exposed stok' _).symm fun hboth => h (hboth.1.mpr h')
    · rw [if_neg h, if_neg h', List.append_right_inj]
      simp [h, h']

/-- Nothing but the mark is left of a token exactly if nothing ends it. -/
theorem left_of_eq_mark_iff (hne : stok ≠ "") :
    left_of stok = ";stok=<redacted>".toList ↔ ∀ c ∈ stok.toList, ends_token c = false := by
  have hne' : stok.toList ≠ [] := by simpa using hne
  constructor
  · intro h
    rw [left_of_eq] at h
    rcases exposed_cases stok with hnone | ⟨d, rest, hrest, hd⟩
    · exact exposed_eq_nil_iff.mp hnone
    · exfalso
      by_cases hhidden : hidden stok = []
      · rw [if_pos hhidden, mark_eq, List.append_right_inj] at h
        exact mark_ne_exposed stok [] h
      · rw [if_neg hhidden, List.append_right_eq_self, hrest] at h
        have hhead := head?_redacted d rest
        rw [h] at hhead
        cases hhead
  · exact fun h => redacted_token hne' h

end

/-! ## The URL in its parts -/

def url_start (host : String) : List Char :=
  "https://".toList ++ host.toList ++ "/cgi-bin/luci/".toList

def url_end (path : String) (form : Option String) : List Char :=
  "/".toList ++ (stripped '/' path).toList ++
    form.elim [] fun form => "?form=".toList ++ form.toList

theorem luci_join : "/cgi-bin/luci/;stok=" = "/cgi-bin/luci/" ++ ";stok=" := by decide

theorem endpoint_url_toList (host stok path : String) (form : Option String) :
    (endpoint_url host stok path form).toList =
      url_start host ++ (";stok=".toList ++ stok.toList ++ url_end path form) := by
  unfold url_start url_end endpoint_url
  cases form with
  | none => simp only [luci_join, String.toList_append, List.append_assoc, Option.elim,
      List.append_nil]
  | some form => simp only [luci_join, String.toList_append, List.append_assoc, Option.elim]

/-- A character of a text of the code is not the one with which a match begins. -/
theorem plain_of_all {xs : List Char} (h : xs.all (· ≠ ';') = true) : ∀ c ∈ xs, c ≠ ';' :=
  fun c hc => of_decide_eq_true (List.all_eq_true.mp h c hc)

theorem redacted_around {first middle last : List Char} {d : Char}
    (hfirst : ∀ c ∈ first, c ≠ ';') (hmiddle : redacted middle = middle)
    (hd : ends_token d = true) (hlast : redacted (d :: last) = d :: last) :
    redacted (first ++ middle ++ d :: last) = first ++ middle ++ d :: last := by
  rw [List.append_assoc, redacted_plain hfirst, redacted_append hd, hmiddle, hlast]

theorem redacted_url_start {host : String} (h : ¬ ";stok=".toList <:+: host.toList) :
    redacted (url_start host) = url_start host := by
  have hlast : redacted ("/cgi-bin/luci/".toList ++ []) = "/cgi-bin/luci/".toList ++ [] :=
    redacted_plain (plain_of_all (by decide)) []
  rw [List.append_nil] at hlast
  exact redacted_around (plain_of_all (by decide)) (redacted_eq_self h) (by decide) hlast

theorem stripped_within (path : String) : (stripped '/' path).toList <:+: path.toList := by
  rw [stripped, String.toList_ofList]
  have hback := List.dropWhile_suffix (fun c => decide (c = '/'))
    (l := (path.toList.dropWhile (· = '/')).reverse)
  have hfront := List.dropWhile_suffix (fun c => decide (c = '/')) (l := path.toList)
  rw [← List.reverse_prefix, List.reverse_reverse] at hback
  exact hback.isInfix.trans hfront.isInfix

theorem redacted_url_end {path : String} {form : Option String}
    (hpath : ¬ ";stok=".toList <:+: path.toList)
    (hform : ∀ f ∈ form, ¬ ";stok=".toList <:+: f.toList) :
    redacted (url_end path form) = url_end path form := by
  have hstripped : redacted (stripped '/' path).toList = (stripped '/' path).toList :=
    redacted_eq_self fun h => hpath (h.trans (stripped_within path))
  have hslash : ∀ c ∈ "/".toList, c ≠ ';' := plain_of_all (by decide)
  cases form with
  | none =>
    rw [url_end, Option.elim, List.append_nil, redacted_plain hslash, hstripped]
  | some form =>
    have hlast : redacted ("?form=".toList ++ form.toList) = "?form=".toList ++ form.toList := by
      rw [redacted_plain (plain_of_all (by decide)), redacted_eq_self (hform form rfl)]
    exact redacted_around hslash hstripped (by decide) hlast

/-- What is left of the token stands between the other parts of the URL. -/
theorem redacted_url {host path : String} {form : Option String}
    (hhost : ¬ ";stok=".toList <:+: host.toList) (hpath : ¬ ";stok=".toList <:+: path.toList)
    (hform : ∀ f ∈ form, ¬ ";stok=".toList <:+: f.toList) (stok : String) :
    redacted (endpoint_url host stok path form).toList =
      url_start host ++ (left_of stok ++ url_end path form) := by
  have hsemicolon : ∀ xs ys : List Char, redacted (xs ++ (";stok=".toList ++ ys)) =
      redacted xs ++ redacted (";stok=".toList ++ ys) :=
    fun xs ys => redacted_append (by decide) xs _
  have hslash : ∀ xs : List Char, redacted (xs ++ url_end path form) =
      redacted xs ++ redacted (url_end path form) := fun xs => redacted_append (by decide) xs _
  rw [endpoint_url_toList, List.append_assoc, hsemicolon, redacted_url_start hhost,
    ← List.append_assoc, hslash, redacted_url_end hpath hform]
  rfl

/-! ## Two tokens -/

/-- Two tokens give one text exactly if both have a hidden part or none has, and the same is left
of their exposed parts. Nothing of a token is left exactly if no character ends it. -/
theorem redaction_hides_exactly (host path : String) (form : Option String)
    (hhost : ¬ ";stok=".toList <:+: host.toList) (hpath : ¬ ";stok=".toList <:+: path.toList)
    (hform : ∀ f ∈ form, ¬ ";stok=".toList <:+: f.toList) :
    (∀ stok stok', redact_session_token (endpoint_url host stok path form) =
        redact_session_token (endpoint_url host stok' path form) ↔
      (hidden stok = [] ↔ hidden stok' = []) ∧
        redacted (exposed stok) = redacted (exposed stok')) ∧
    ∀ stok, stok ≠ "" →
      (redact_session_token (endpoint_url host stok path form) =
          endpoint_url host "<redacted>" path form ↔
        ∀ c ∈ stok.toList, ends_token c = false) := by
  refine ⟨?_, ?_⟩
  · intro stok stok'
    unfold redact_session_token
    rw [String.ofList_inj, redacted_url hhost hpath hform, redacted_url hhost hpath hform,
      List.append_right_inj, List.append_left_inj, left_of_eq_iff]
  · intro stok hstok
    rw [← left_of_eq_mark_iff hstok, redact_session_token, ← String.toList_inj,
      String.toList_ofList, redacted_url hhost hpath hform, endpoint_url_toList,
      List.append_right_inj, List.append_left_inj, ← mark_eq]

theorem plain_parts : ¬ ";stok=".toList <:+: "192.168.68.1".toList ∧
    ¬ ";stok=".toList <:+: "admin/network".toList ∧
    ∀ f ∈ some "wan_ipv4", ¬ ";stok=".toList <:+: f.toList := by
  refine ⟨by decide, by decide, fun f hf => ?_⟩
  obtain rfl := Option.mem_some_iff.mp hf
  decide

/-- Of a token with a slash, the part behind the slash is in the text. -/
theorem a_slash_exposes_a_token :
    ¬ (∀ host stok stok' path form, stok ≠ "" → stok' ≠ "" →
      ¬ ";stok=".toList <:+: host.toList → ¬ ";stok=".toList <:+: path.toList →
      (∀ f ∈ form, ¬ ";stok=".toList <:+: f.toList) →
      redact_session_token (endpoint_url host stok path form) =
        redact_session_token (endpoint_url host stok' path form)) ∧
    redact_session_token (endpoint_url "192.168.68.1" "a1/b2c3" "admin/network" "wan_ipv4") =
      "https://192.168.68.1/cgi-bin/luci/;stok=<redacted>/b2c3/admin/network?form=wan_ipv4" := by
  have hslash : redact_session_token
      (endpoint_url "192.168.68.1" "a1/b2c3" "admin/network" "wan_ipv4") =
        "https://192.168.68.1/cgi-bin/luci/;stok=<redacted>/b2c3/admin/network?form=wan_ipv4" := by
    decide
  have hplain : redact_session_token
      (endpoint_url "192.168.68.1" "a1b2c3" "admin/network" "wan_ipv4") =
        "https://192.168.68.1/cgi-bin/luci/;stok=<redacted>/admin/network?form=wan_ipv4" := by
    decide
  refine ⟨fun hclaim => ?_, hslash⟩
  have hsame := hclaim "192.168.68.1" "a1/b2c3" "a1b2c3" "admin/network" "wan_ipv4" (by decide)
    (by decide) plain_parts.1 plain_parts.2.1 plain_parts.2.2
  rw [hslash, hplain] at hsame
  exact absurd hsame (by decide)

theorem the_redaction_hides_a_plain_token :
    redact_session_token (endpoint_url "192.168.68.1" "a1b2c3" "admin/network" "wan_ipv4") =
      endpoint_url "192.168.68.1" "<redacted>" "admin/network" "wan_ipv4" := by
  have hplain : "a1b2c3".toList.all (fun c => ! ends_token c) = true := by decide
  refine ((redaction_hides_exactly "192.168.68.1" "admin/network" (some "wan_ipv4") plain_parts.1
    plain_parts.2.1 plain_parts.2.2).2 "a1b2c3" (by decide)).mpr ?_
  intro c hc
  simpa using List.all_eq_true.mp hplain c hc

end tplink_deco_api.auth
