import Mathlib.Tactic

/-! The constants of `lwip.defs` that the modelled functions use. -/
namespace LwipPy

def AF_UNSPEC : ℤ := 0
def AF_INET : ℤ := 2
def AF_INET6 : ℤ := 10

def MSG_PEEK : ℤ := 0x01
def MSG_TRUNC : ℤ := 0x04

def SOCK_STREAM : ℤ := 1
def SOCK_DGRAM : ℤ := 2

def FIONBIO : ℤ := 0x8008667e

def F_GETFL : ℤ := 3
def F_SETFL : ℤ := 4
def O_NONBLOCK : ℤ := 1

def IOV_MAX : ℕ := 0xFFFF

def ERR_OK : ℤ := 0

def POLLIN : ℤ := 0x1
def POLLOUT : ℤ := 0x2
def POLLPRI : ℤ := 0x40

end LwipPy
