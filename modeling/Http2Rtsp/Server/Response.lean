import Http2Rtsp.Std.Decimal
import Http2Rtsp.Server.Download

/-!
# Responses of the media source

What an HTTP response with a `Content-Length` is, and what `GETSENT` makes of its
header block when `recv_all` returns all of it.
-/

namespace Http2Rtsp.Server

open Http2Rtsp.Std

/-- A response: a header block with a line `Content-Length: n` in it, and a body of `n` bytes. The
block ends in its first blank line. -/
structure HttpResponse where
  before : List UInt8
  digits : List UInt8
  after : List UInt8
  body : List UInt8
  line : before = [] ∨ crlf <:+ before
  nonempty : digits ≠ []
  numeric : ∀ digit ∈ digits, isDigit digit = true
  length : digitsValue digits = body.length
  ends : crlfcrlf <:+ before ++ ascii "Content-Length: " ++ digits ++ crlf ++ after
  first : ¬ crlfcrlf <:+: (before ++ ascii "Content-Length: " ++ digits ++ crlf ++ after).dropLast

namespace HttpResponse

/-- The header block. -/
def header (response : HttpResponse) : List UInt8 :=
  response.before ++ ascii "Content-Length: " ++ response.digits ++ crlf ++ response.after

/-- What the source sends. -/
def bytes (response : HttpResponse) : List UInt8 := response.header ++ response.body

/-- What `GETSENT` needs of a response in order to read it. -/
structure Readable (response : HttpResponse) : Prop where
  /-- The header block and a NUL fit `msgbuf`. -/
  short : response.header.length < bufSize
  plain : 0 ∉ response.header
  /-- The text `Content-Length:` does not occur in front of the line. -/
  earlier : ¬ ascii "Content-Length:" <:+: response.before
  /-- The length fits an `int`. -/
  fits : response.body.length < 2 ^ 31

/-- A peek which holds the header block shows where it ends. -/
theorem headerLength_of_peeked {response : HttpResponse} {peeked : List UInt8}
    (plain : 0 ∉ response.header) (held : response.header <+: peeked) :
    headerLength peeked = some response.header.length := by
  obtain ⟨rest, rfl⟩ := held
  have nonzero : ∀ byte ∈ response.header, decide (byte ≠ 0) = true := by
    intro byte member
    have known : byte ≠ 0 := fun zero => plain (zero ▸ member)
    simp [known]
  have text : (response.header ++ rest).takeWhile (· ≠ 0) =
      response.header ++ rest.takeWhile (· ≠ 0) := List.takeWhile_append_of_pos nonzero
  have found : strstr (response.header ++ rest.takeWhile (· ≠ 0)) crlfcrlf =
      some (crlfcrlf ++ rest.takeWhile (· ≠ 0)) :=
    strstr_append_of_first _ (by simp [crlfcrlf, ascii]) response.ends response.first
  have long := response.ends.length_le
  simp only [headerLength, text, found, Option.map_some, List.length_append]
  congr 1
  have four : crlfcrlf.length = 4 := rfl
  change crlfcrlf.length ≤ response.header.length at long
  omega

/-- What begins a response and has a blank line in it holds the header block. -/
theorem header_prefix_of_blank {response : HttpResponse} {front : List UInt8}
    (begins : front <+: response.bytes) (blank : crlfcrlf <:+: front) :
    response.header <+: front := by
  have whole : response.header <+: response.bytes := List.prefix_append _ _
  rcases List.prefix_or_prefix_of_prefix whole begins with held | ⟨cut, shorter⟩
  · exact held
  · rcases List.eq_nil_or_concat cut with rfl | ⟨others, last, rfl⟩
    · rw [List.append_nil] at shorter
      exact shorter ▸ List.prefix_refl _
    · -- A blank line in a part of the block would not be the first one.
      have within : front <+: response.header.dropLast := by
        rw [← shorter, List.concat_eq_append, ← List.append_assoc, List.dropLast_concat]
        exact List.prefix_append _ _
      exact absurd (blank.trans within.isInfix) response.first

/-- A peek at the response which shows an end of the header block holds the block. -/
theorem peeked_of_headerLength {response : HttpResponse} {peeked : List UInt8} {size : Nat}
    (begins : peeked <+: response.bytes) (found : headerLength peeked = some size) :
    response.header <+: peeked := by
  obtain ⟨temp, hit, -⟩ := Option.map_eq_some_iff.mp found
  obtain ⟨suffix, blank⟩ := strstr_some hit
  have text : peeked.takeWhile (· ≠ 0) <+: peeked := List.takeWhile_prefix _
  exact header_prefix_of_blank begins
    ((blank.isInfix.trans suffix.isInfix).trans text.isInfix)

/-- The bytes of a response determine its header block. -/
theorem header_eq_of_bytes_eq {first second : HttpResponse} (same : first.bytes = second.bytes) :
    first.header = second.header := by
  have one : first.header <+: second.header := by
    refine header_prefix_of_blank ?_ second.ends.isInfix
    rw [same]
    exact List.prefix_append _ _
  have other : second.header <+: first.header := by
    refine header_prefix_of_blank ?_ first.ends.isInfix
    rw [← same]
    exact List.prefix_append _ _
  exact one.eq_of_length (le_antisymm one.length_le other.length_le)

/-- From the whole header block `GETSENT` reads the length of the body. -/
theorem getsent_header {response : HttpResponse} (readable : response.Readable)
    (download : Download) : download.getsent response.header =
      .ok { download with
        videosize := response.body.length
        videoleft := response.body.length
        mediastate := .recvtcp } := by
  have text := cString_of_lt readable.short readable.plain
  have shape : response.header = response.before ++ ascii "Content-Length:" ++
      (32 :: response.digits ++ crlf ++ response.after) := by
    simp [header, ascii]
  have line : response.before = [] ∨ [10] <:+ response.before :=
    response.line.imp_right fun ends => List.IsSuffix.trans ⟨[13], rfl⟩ ends
  have found : strstr response.header (ascii "Content-Length:") =
      some (ascii "Content-Length:" ++ (32 :: response.digits ++ crlf ++ response.after)) := by
    rw [shape]
    exact strstr_line _ (by simp [ascii]) (by decide) line readable.earlier
  have fits : digitsValue response.digits < 2 ^ 31 := response.length ▸ readable.fits
  have value : (ascii "Content-Length:" ++
      (32 :: response.digits ++ crlf ++ response.after)).drop 15 =
        32 :: response.digits ++ crlf ++ response.after := rfl
  have read := scanInt_digits ⟨response.digits, response.nonempty, response.numeric⟩ response.after fits
  simp only [Digits.value, response.length] at read
  simp only [Download.getsent, text, found, value, read, Option.getD_some]

end HttpResponse
end Http2Rtsp.Server
