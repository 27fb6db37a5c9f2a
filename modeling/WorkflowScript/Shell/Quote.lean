import WorkflowScript.Shell.Word

namespace WorkflowScript.Shell.Quote

def withBackslashes (text : Chars) : Chars :=
  if text.isEmpty then ['\'', '\'']
  else if text.any fun c => c < ' ' || '\x7f' ≤ c then ansi text
  else
    match text with
    | c :: rest => escapeFirst c ++ rest.flatMap escape
    | [] => []
where
  escape (c : Char) : Chars :=
    if " \t\n'\"\\|&;()<>!\x7b\x7d*[]?^$\x60,".toList.contains c then ['\\', c] else [c]
  escapeFirst (c : Char) : Chars := if c = '~' ∨ c = '#' then ['\\', c] else escape c
  ansi (text : Chars) : Chars := "$'".toList ++ text.flatMap ansiChar ++ ['\'']
  ansiChar (c : Char) : Chars :=
    if c = '\n' then "\\n".toList
    else if c = '\t' then "\\t".toList
    else if c = '\r' then "\\r".toList
    else if c = '\x07' then "\\a".toList
    else if c = '\x08' then "\\b".toList
    else if c = '\x0b' then "\\v".toList
    else if c = '\x0c' then "\\f".toList
    else if c = '\x1b' then "\\E".toList
    else if c = '\'' then "\\'".toList
    else if c = '\\' then "\\\\".toList
    else if c < ' ' ∨ '\x7f' ≤ c then
      let digits := Nat.toDigits 8 c.toNat
      '\\' :: List.replicate (3 - digits.length) '0' ++ digits
    else [c]

def inQuotes (text : Chars) : Chars :=
  if text.any fun c => c < ' ' || '\x7f' ≤ c then withBackslashes.ansi text
  else '\'' :: text.flatMap (fun c => if c = '\'' then "'\\''".toList else [c]) ++ ['\'']

end WorkflowScript.Shell.Quote
