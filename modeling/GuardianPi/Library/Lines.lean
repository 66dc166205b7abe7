import GuardianPi.Library.Separated

/-! # Text files of lines

A file opened as text writes each line feed as the line end of its platform, and reads every line end
as a line feed. -/

namespace GuardianPi.Library.Lines

inductive LineEnd where
  | lf
  | crlf

def LineEnd.write : LineEnd → List Char → List Char
  | .lf, text => text
  | .crlf, text => text.flatMap fun c => if c = '\n' then ['\r', '\n'] else [c]

def universalNewlines : List Char → List Char
  | '\r' :: '\n' :: cs => '\n' :: universalNewlines cs
  | '\r' :: cs => '\n' :: universalNewlines cs
  | c :: cs => c :: universalNewlines cs
  | [] => []

end GuardianPi.Library.Lines
