namespace FormatterModules.Text

def byteSize (s : List Char) : Nat := (String.ofList s).utf8ByteSize

/-- No text has more bytes: what is allocated is no larger than a signed word of 64 bits can tell. -/
def maxByteSize : Nat := UInt64.size / 2 - 1

end FormatterModules.Text
