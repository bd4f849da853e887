import JsonSchema.Unicode.Category

/-!
# Direction and joining

The direction in which the characters of a script are written, and whether letters join the ones
beside them. Code points that no domain name may hold are left aside: they may belong to any of
the sets.
-/

namespace JsonSchema.Unicode

/-- Marks that take no room of their own. -/
def nonspacing : CharSet :=
  (CharSet.unions [category "Mn", category "Me"]).difference (.ofTable "CBF CC6 11A07-11A08 11C3F")

/-! ## Direction -/

/-- Letters that are written from right to left. -/
def rightToLeft : CharSet :=
  CharSet.ofTable
    "5BE 5C0 5C3 5C6 5D0-5F4 608 60B 60D 61B-64A 66D-66F 671-6D5 6E5-6E6 6EE-6EF 6FA-710
     712-72F 74D-7A5 7B1-7EA 7F4-7F5 7FA 7FE-815 81A 824 828 830-858 85E-88E 8A0-8C9
     FBB2-FBC2 FE73 10800-1091B 10920-10A00 10A10-10A35 10A40-10AE4 10AEB-10B35 10B40-10D23
     10E80-10EA9 10EAD-10EB1 10F00-10F45 10F51-10F81 10F86-10FF6 1E800-1E8CF 1E922-1E943
     1E94B-1ED3D"

def arabicNumbers : CharSet := CharSet.ofTable "660-669 66B-66C 10D30-10E7E"

def europeanNumbers : CharSet := CharSet.ofTable "30-39 6F0-6F9 102E1-102FB"

/-- Signs that take the direction of what stands around them. -/
def neutral : CharSet :=
  CharSet.ofTable
    "21-2F 3A-40 5B-60 7B-D7 F7 2B9-2BA 2C2-2CF 2D2-2ED 2EF-2FF 375 3F6 58A-58F 606-607
     609-60A 60C 60E-60F 66A 6DE 6E9 7F6-7F9 9F2-9F3 9FB AF1 BF3-BFA C78-C7E E3F F3A-F3D
     1390-1399 1400 169B-169C 17DB 17F0-180A 1940-1945 19DE-19FF 200C-20C0 2104-214D
     218A-2335 237B-2394 2396-26AB 26AD-27FF 2900-2BFF 2CE5-2CEA 2CF9-2CFF 2E00-3004
     3008-3020 3030 3037 303D-303F 30A0 30FB 31C0-31E3 4DC0-4DFF A490-A4C6 A60D-A60F A673
     A67E-A67F A700-A721 A788 A828-A82B A838-A839 A874-A877 AB6A-AB6B FD3E-FDFF FE45-FE46
     10101 10140-1018C 10190-101A0 1091F 10B39-10B3F 11052-11065 11660-1166C 11FD5-11FF1
     16FE2 1D1E9-1D241 1D245 1D300-1D356 1E2FF 1EEF0-1F12F 1F16D-1F16F 1F1AD 1F260-1FBCA"

/-- The direction of a character. -/
inductive Direction where
  | left
  | right
  | european
  | arabic
  | mark
  | neutral
deriving DecidableEq, Repr

def direction (c : Char) : Direction :=
  if rightToLeft.contains c then .right
  else if arabicNumbers.contains c then .arabic
  else if europeanNumbers.contains c then .european
  else if nonspacing.contains c then .mark
  else if neutral.contains c then .neutral
  else .left

/-! ## Joining -/

/-- Letters that join those on both sides. -/
def dualJoining : CharSet :=
  CharSet.ofTable
    "620 626 628 62A-62E 633-63F 641-647 649-64A 66E-66F 679-687 69A-6BF 6C1-6C2 6CC 6CE
     6D0-6D1 6FA-6FC 6FF 712-714 71A-71D 71F-727 729 72B 72D-72E 74E-758 75C-76A 76D-770 772
     775-777 77A-77F 7CA-7EA 841-845 848 84A-853 855 860 862-865 868 886 889-88D 8A0-8A9
     8AF-8B0 8B3-8B8 8BA-8C8 1807 1820-1878 1887-18A8 18AA A840-A871 10AC0-10AC4 10AD3-10AD6
     10AD8-10ADC 10ADE-10AE0 10AEB-10AEE 10B80 10B82 10B86-10B88 10B8A-10B8B 10B8D 10B90
     10BAD-10BAE 10D01-10D21 10D23 10F30-10F32 10F34-10F44 10F51-10F53 10F70-10F73
     10F76-10F81 10FB0 10FB2-10FB3 10FB8 10FBB-10FBC 10FBE-10FBF 10FC1 10FC4 10FCA
     1E922-1E943"

/-- Letters that join the one before them only. -/
def backwardJoining : CharSet :=
  CharSet.ofTable
    "622-625 627 629 62F-632 648 671-673 688-699 6C0 6C3-6CB 6CD 6CF 6D2-6D3 6D5 6EE-6EF 710
     715-719 71E 728 72A 72C 72F 74D 759-75B 76B-76C 771 773-774 778-779 840 846-847 849 854
     856-858 867 869-882 88E 8AA-8AC 8AE 8B1-8B2 8B9 10AC5 10AC7 10AC9-10ACA 10ACE-10AD2
     10ADD 10AE1 10AE4 10AEF 10B81 10B83-10B85 10B89 10B8C 10B8E-10B8F 10B91 10BA9-10BAC
     10D22 10F33 10F54 10F74-10F75 10FB4-10FB6 10FB9-10FBA 10FBD 10FC2-10FC3 10FC9"

/-- Letters that join the one after them only. -/
def forwardJoining : CharSet := CharSet.ofTable "A872 10ACD 10AD7 10D00 10FCB"

/-- Characters across which letters join. -/
def transparent : CharSet := CharSet.unions [category "Mn", category "Me", category "Cf", .ofTable "1E94B"]

end JsonSchema.Unicode
