/-
Joiners in host names.

Two characters show nothing and only say whether the letters around them are joined.  In
a label they may stand where scripts need them: behind a virama, which makes a conjunct of
the consonants around it, and the one that parts letters also between two letters that
would otherwise join.  Transparent characters between the letters and the
joiner do not count.
-/
import AgentId.Idna.Direction
import AgentId.Text.Composed

namespace AgentId.Idna

open Text (CodeSet)

/-- Letters that join the letter behind them, and letters that join both neighbours. -/
def joinsNext : CodeSet := .ofText
  "0620 0626 0628 062A-062E 0633-063F 0641-0647 0649-064A 066E-066F 0679-0687 069A-06BF
   06C1-06C2 06CC 06CE 06D0-06D1 06FA-06FC 06FF 0712-0714 071A-071D 071F-0727 0729 072B
   072D-072E 074E-0758 075C-076A 076D-0770 0772 0775-0777 077A-077F 07CA-07EA 0841-0845 0848
   084A-0853 0855 0860 0862-0865 0868 0886 0889-088D 088F 08A0-08A9 08AF-08B0 08B3-08B8
   08BA-08C8 1807 1820-1878 1887-18A8 18AA A840-A871 A872 10AC0-10AC4 10ACD 10AD3-10AD6 10AD7
   10AD8-10ADC 10ADE-10AE0 10AEB-10AEE 10B80 10B82 10B86-10B88 10B8A-10B8B 10B8D 10B90
   10BAD-10BAE 10D00 10D01-10D21 10D23 10EC3-10EC4 10EC6-10EC7 10F30-10F32 10F34-10F44
   10F51-10F53 10F70-10F73 10F76-10F81 10FB0 10FB2-10FB3 10FB8 10FBB-10FBC 10FBE-10FBF 10FC1
   10FC4 10FCA 10FCB 1E922-1E943"

/-- Letters that join the letter before them, and letters that join both neighbours. -/
def joinsPrevious : CodeSet := .ofText
  "0620 0622-0625 0626 0627 0628 0629 062A-062E 062F-0632 0633-063F 0641-0647 0648 0649-064A
   066E-066F 0671-0673 0679-0687 0688-0699 069A-06BF 06C0 06C1-06C2 06C3-06CB 06CC 06CD 06CE
   06CF 06D0-06D1 06D2-06D3 06D5 06EE-06EF 06FA-06FC 06FF 0710 0712-0714 0715-0719 071A-071D
   071E 071F-0727 0728 0729 072A 072B 072C 072D-072E 072F 074D 074E-0758 0759-075B 075C-076A
   076B-076C 076D-0770 0771 0772 0773-0774 0775-0777 0778-0779 077A-077F 07CA-07EA 0840
   0841-0845 0846-0847 0848 0849 084A-0853 0854 0855 0856-0858 0860 0862-0865 0867 0868
   0869-0882 0886 0889-088D 088E 088F 08A0-08A9 08AA-08AC 08AE 08AF-08B0 08B1-08B2 08B3-08B8
   08B9 08BA-08C8 1807 1820-1878 1887-18A8 18AA A840-A871 10AC0-10AC4 10AC5 10AC7 10AC9-10ACA
   10ACE-10AD2 10AD3-10AD6 10AD8-10ADC 10ADD 10ADE-10AE0 10AE1 10AE4 10AEB-10AEE 10AEF 10B80
   10B81 10B82 10B83-10B85 10B86-10B88 10B89 10B8A-10B8B 10B8C 10B8D 10B8E-10B8F 10B90 10B91
   10BA9-10BAC 10BAD-10BAE 10D01-10D21 10D22 10D23 10EC2 10EC3-10EC4 10EC6-10EC7 10F30-10F32
   10F33 10F34-10F44 10F51-10F53 10F54 10F70-10F73 10F74-10F75 10F76-10F81 10FB0 10FB2-10FB3
   10FB4-10FB6 10FB8 10FB9-10FBA 10FBB-10FBC 10FBD 10FBE-10FBF 10FC1 10FC2-10FC3 10FC4 10FC9
   10FCA 1E922-1E943"

/-- Transparent characters that are no nonspacing marks of the bidirectional algorithm. -/
def moreTransparent : CodeSet := .ofText
  "0CBF 0CC6 1171E 11A07-11A08 11C3F 1E94B"

/-- Whether letters join across a character. -/
def isTransparent (c : Char) : Bool :=
  nonspacingMarks.contains c || moreTransparent.contains c

/-- The class of marks that part a consonant from its vowel. -/
def viramaClass : Nat := 9

/-- Whether the joiners of a text stand where they may, given the characters before the
text, last one first. -/
def joinersFrom (before : List Char) : List Char → Bool
  | [] => true
  | c :: cs =>
    let behindVirama := before.head?.any (Text.combiningClass · == viramaClass)
    let betweenLetters :=
      ((before.dropWhile isTransparent).head?.any joinsNext.contains) &&
        ((cs.dropWhile isTransparent).head?.any joinsPrevious.contains)
    (if c = '\u200C' then behindVirama || betweenLetters
      else if c = '\u200D' then behindVirama
      else true) && joinersFrom (c :: before) cs

/-- Whether the joiners of a label stand where they may. -/
def joinersFit (label : List Char) : Bool :=
  joinersFrom [] label

end AgentId.Idna
