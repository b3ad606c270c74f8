import Http2Rtsp.Message.Replies
import Http2Rtsp.Std.Lines

/-!
# Splitting a URL

`parse_url` steps over the slashes of a URL with `strchr`. Behind `http://` it looks for the third
one, else for the first, and a URL with a path is split there. A URL without a path has no such
slash, and the pointer to it is then used although it is NULL.
-/

namespace Http2Rtsp.Message

open Http2Rtsp.Std

/-- A URL taken apart: `http://` in any letter case or nothing, a host without slashes, and a path
which is empty or begins with one. -/
structure Url where
  scheme : List UInt8
  host : List UInt8
  path : List UInt8
  scheme_http : scheme = [] ∨ scheme.map toLower = ascii "http://"
  host_nonempty : host ≠ []
  host_free : 47 ∉ host
  path_begins : path = [] ∨ ∃ rest, path = 47 :: rest
  short : (scheme ++ host ++ path).length < urlSize

/-- The string itself. -/
def Url.text (url : Url) : List UInt8 := url.scheme ++ url.host ++ url.path

/-- A string which `parse_url` takes for one with a scheme. -/
def Prefixed (text : List UInt8) : Prop := (text.take 7).map toLower = ascii "http://"

instance (text : List UInt8) : Decidable (Prefixed text) :=
  inferInstanceAs (Decidable (_ = _))

/-- What may be asked for: the path, and for an empty one nothing or the root. -/
def Url.Asks (url : Url) (path : List UInt8) : Prop :=
  if url.path = [] then path = [] ∨ path = ascii "/" else path = url.path

/-- The lines of the request for a path of a host. -/
def getLines (host path : List UInt8) : List (List UInt8) :=
  [ascii "GET " ++ path ++ ascii " HTTP/1.1", ascii "User-Agent: http2rtsp", ascii "Host: " ++ host,
    ascii "Accept: */*"]

/-- The request: its lines and the blank line. -/
def getRequest (host path : List UInt8) : List UInt8 :=
  ((getLines host path).flatMap fun line => line ++ crlf) ++ crlf

/-- The host and the path are told apart, and requested. -/
def Url.Splits (url : Url) : Prop :=
  ∃ path, url.Asks path ∧ parseUrl url.text = .ok (url.host, path) ∧
    httpGet url.text = .ok (getRequest url.host path)

/-! ## Slashes -/

theorem strchr_eq_none {text : List UInt8} {char : UInt8} (absent : char ∉ text) :
    strchr text char = none :=
  strstr_eq_none_iff.mpr fun occurs => absent (occurs.subset (List.mem_singleton_self char))

/-- A search for a byte stops at the first one. -/
theorem strchr_append {front : List UInt8} {char : UInt8} (free : char ∉ front)
    (rest : List UInt8) : strchr (front ++ char :: rest) char = some (char :: rest) := by
  have first : ¬ [char] <:+: (front ++ [char]).dropLast := by
    rw [List.dropLast_concat]
    exact fun occurs => free (occurs.subset (List.mem_singleton_self char))
  have found := strstr_append_of_first rest (List.cons_ne_nil char []) (List.suffix_append front _) first
  rwa [List.append_assoc] at found

/-- Only a slash is one in lower case. -/
theorem toLower_eq_slash {byte : UInt8} : toLower byte = 47 ↔ byte = 47 := by
  unfold toLower
  split
  · rename_i letter
    constructor
    · intro slash
      -- The byte 32 below the slash is not a letter.
      obtain rfl : byte = 15 := by rwa [← UInt8.add_left_inj 32]
      exact absurd letter.1 (by decide)
    · rintro rfl
      exact absurd letter.1 (by decide)
  · exact Iff.rfl

/-- The scheme ends with its only two slashes. -/
theorem scheme_slashes {scheme : List UInt8} (http : scheme.map toLower = ascii "http://") :
    ∃ letters, scheme = letters ++ [47, 47] ∧ 47 ∉ letters ∧ letters.length = 5 := by
  have size : scheme.length = 7 := by
    have same := congrArg List.length http
    rwa [List.length_map] at same
  obtain ⟨a, b, c, d, e, f, g, rfl⟩ : ∃ a b c d e f g, scheme = [a, b, c, d, e, f, g] := by
    match scheme, size with
    | [a, b, c, d, e, f, g], _ => exact ⟨a, b, c, d, e, f, g, rfl⟩
  have bytes : ascii "http://" = [104, 116, 116, 112, 58, 47, 47] := rfl
  simp only [bytes, List.map_cons, List.map_nil, List.cons.injEq, and_true] at http
  obtain ⟨h, t, t', p, colon, first, second⟩ := http
  obtain rfl := toLower_eq_slash.mp first
  obtain rfl := toLower_eq_slash.mp second
  refine ⟨[a, b, c, d, e], rfl, fun member => ?_, rfl⟩
  have lower : (47 : UInt8) ∈ [a, b, c, d, e].map toLower :=
    List.mem_map.mpr ⟨47, member, rfl⟩
  rw [List.map_cons, List.map_cons, List.map_cons, List.map_cons, List.map_cons, h, t, t', p, colon]
    at lower
  exact absurd lower (by decide)

/-! ## Splitting -/

/-- Behind a scheme the path begins at the third slash. -/
theorem urlPath_scheme {scheme rest : List UInt8} (http : scheme.map toLower = ascii "http://") :
    urlPath (scheme ++ rest) = strchr rest 47 ∧ urlHost (scheme ++ rest) = rest := by
  obtain ⟨letters, rfl, free, size⟩ := scheme_slashes http
  have front : (letters ++ [47, 47] ++ rest).take 7 = letters ++ [47, 47] :=
    List.take_left' (by rw [List.length_append, size]; rfl)
  have first : strchr (letters ++ [47, 47] ++ rest) 47 = some (47 :: 47 :: rest) := by
    rw [List.append_assoc]
    exact strchr_append free (47 :: rest)
  have second : strchr (47 :: rest) 47 = some (47 :: rest) := strchr_append List.not_mem_nil rest
  constructor
  · simp only [urlPath, front, http, if_true, first, Option.bind_eq_bind, Option.bind_some,
      List.drop_succ_cons, List.drop_zero, second]
  · rw [urlHost, front, if_pos http]
    exact List.drop_left' (by rw [List.length_append, size]; rfl)

/-- Without a scheme it begins at the first one. -/
theorem urlPath_plain {text : List UInt8} (plain : ¬ Prefixed text) :
    urlPath text = strchr text 47 ∧ urlHost text = text :=
  ⟨if_neg plain, if_neg plain⟩

variable (url : Url)

/-- The path is searched for in what is behind the scheme. -/
theorem Url.found (read : url.scheme = [] → ¬ Prefixed url.text) :
    urlPath url.text = strchr (url.host ++ url.path) 47 ∧
      urlHost url.text = url.host ++ url.path := by
  have text : url.text = url.scheme ++ (url.host ++ url.path) := List.append_assoc ..
  rcases url.scheme_http with none | http
  · have plain := urlPath_plain (read none)
    rw [none, List.nil_append] at text
    rw [text] at plain ⊢
    exact plain
  · rw [text]
    exact urlPath_scheme http

/-- A URL with a path is split in front of it. -/
theorem Url.splits (path : url.path ≠ []) (read : url.scheme = [] → ¬ Prefixed url.text) :
    url.Splits := by
  obtain ⟨rest, slash⟩ := url.path_begins.resolve_left path
  have short := url.short
  rw [List.length_append, List.length_append, urlSize] at short
  obtain ⟨found, host⟩ := url.found read
  rw [slash, strchr_append url.host_free, ← slash] at found
  have hostPart : ((url.host ++ url.path).take
      ((url.host ++ url.path).length - url.path.length)).take (urlSize - 1) = url.host := by
    rw [List.length_append, Nat.add_sub_cancel, List.take_left, List.take_of_length_le]
    rw [urlSize]
    omega
  have pathPart : url.path.take (urlSize - 1) = url.path :=
    List.take_of_length_le (by rw [urlSize]; omega)
  have parsed : parseUrl url.text = .ok (url.host, url.path) := by
    simp only [parseUrl, found, host, hostPart, pathPart]
  refine ⟨url.path, by rw [Url.Asks, if_neg path], parsed, ?_⟩
  have literals : (ascii "GET ").length = 4 ∧
      (ascii " HTTP/1.1\r\nUser-Agent: http2rtsp\r\nHost: ").length = 40 ∧
      (ascii "\r\nAccept: */*\r\n\r\n").length = 17 := by decide
  have whole : ascii "GET " ++ url.path ++ ascii " HTTP/1.1\r\nUser-Agent: http2rtsp\r\nHost: " ++
      url.host ++ ascii "\r\nAccept: */*\r\n\r\n" = getRequest url.host url.path := by
    have agent : ascii " HTTP/1.1\r\nUser-Agent: http2rtsp\r\nHost: " = ascii " HTTP/1.1" ++ crlf ++
        ascii "User-Agent: http2rtsp" ++ crlf ++ ascii "Host: " := rfl
    have accept : ascii "\r\nAccept: */*\r\n\r\n" = crlf ++ ascii "Accept: */*" ++ crlf ++ crlf := rfl
    rw [agent, accept]
    simp [getRequest, getLines]
  rw [httpGet, parsed, ← whole]
  refine congrArg Except.ok (List.take_of_length_le ?_)
  simp only [List.length_append, literals, bufSize]
  omega

/-- A URL without a path has no slash to split it at. -/
theorem Url.not_splits_of_no_path (path : url.path = []) : ¬ url.Splits := by
  rintro ⟨asked, -, parsed, -⟩
  have plain : url.scheme = [] → ¬ Prefixed url.text := by
    intro none prefixed
    have host : url.text = url.host := by rw [Url.text, none, path, List.nil_append, List.append_nil]
    obtain ⟨letters, scheme, -⟩ := scheme_slashes prefixed
    have slash : (47 : UInt8) ∈ url.text.take 7 := by
      rw [scheme]
      simp
    rw [host] at slash
    exact url.host_free (List.mem_of_mem_take slash)
  obtain ⟨found, -⟩ := url.found plain
  rw [path, List.append_nil, strchr_eq_none url.host_free] at found
  rw [parseUrl, found] at parsed
  cases parsed

/-- What follows a scheme is shorter by it. -/
theorem urlPath_length {text found : List UInt8} (prefixed : Prefixed text)
    (hit : urlPath text = some found) : found.length + 7 ≤ text.length := by
  obtain ⟨letters, scheme, -, size⟩ := scheme_slashes prefixed
  have split : text = text.take 7 ++ text.drop 7 := (List.take_append_drop 7 text).symm
  rw [split, (urlPath_scheme prefixed).1] at hit
  have suffix := (strstr_some hit).1.length_le
  have long := congrArg List.length scheme
  rw [List.length_append, size, List.length_take] at long
  rw [List.length_drop] at suffix
  simp only [List.length_cons, List.length_nil] at long
  omega

/-- A host `http:` is taken for the scheme. -/
theorem Url.not_splits_of_ambiguous (none : url.scheme = []) (prefixed : Prefixed url.text) :
    ¬ url.Splits := by
  intro splits
  have path : url.path ≠ [] := fun empty => url.not_splits_of_no_path empty splits
  obtain ⟨asked, asks, parsed, -⟩ := splits
  rw [Url.Asks, if_neg path] at asks
  subst asks
  have text : url.text = url.host ++ url.path := by rw [Url.text, none, List.nil_append]
  -- The host has no slash, so it ends in front of those of the scheme.
  have short : url.host.length ≤ 5 := by
    obtain ⟨letters, scheme, -, size⟩ := scheme_slashes prefixed
    by_contra long
    have slash : url.text[5]? = some 47 := by
      have at5 : (url.text.take 7)[5]? = some 47 := by
        rw [scheme, List.getElem?_append_right (by omega), size]
        rfl
      rwa [List.getElem?_take_of_lt (by omega)] at at5
    rw [text, List.getElem?_append_left (by omega)] at slash
    exact url.host_free (List.mem_of_getElem? slash)
  cases hit : urlPath url.text with
  | none =>
      rw [parseUrl, hit] at parsed
      cases parsed
  | some found =>
      have behind := urlPath_length prefixed hit
      rw [parseUrl, hit] at parsed
      have same := congrArg List.length (Prod.mk.inj (Except.ok.inj parsed)).2
      rw [text, List.length_append] at behind
      rw [List.length_take] at same
      omega

/-- `parse_url` and `http_get` do what a URL says exactly when it has a path, and its host is not
`http:` in front of a path with two slashes. -/
theorem parseUrl_splits_iff :
    url.Splits ↔ url.path ≠ [] ∧ (url.scheme = [] → ¬ Prefixed url.text) := by
  constructor
  · intro splits
    exact ⟨fun empty => url.not_splits_of_no_path empty splits,
      fun none prefixed => url.not_splits_of_ambiguous none prefixed splits⟩
  · rintro ⟨path, read⟩
    exact url.splits path read

/-- A URL without a path. -/
def pathless : Url where
  scheme := ascii "http://"
  host := ascii "localhost"
  path := []
  scheme_http := by decide
  host_nonempty := by decide
  host_free := by decide
  path_begins := Or.inl rfl
  short := by decide

/-- `parse_url` uses a null pointer there. -/
theorem parseUrl_not_always_splits : ¬ ∀ url : Url, url.Splits := by
  intro always
  obtain ⟨path, -, parsed, -⟩ := always pathless
  have undefined : parseUrl pathless.text = .error .nullPointer := by rfl
  rw [undefined] at parsed
  cases parsed

end Http2Rtsp.Message
